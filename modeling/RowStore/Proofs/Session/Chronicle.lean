import RowStore.Proofs.Event.Ledger
import RowStore.Proofs.Session.Turns

/-!
# The log of a session

From its first event on, the log of a session is an account of the table, and every line continues
it: with the statement, and with what the table has to report of it. So the log of a whole session
tells the lines that were carried out, the rows and pages they added, the insertions that a full
table refused, and whether the input was read to its end.
-/

namespace RowStore

open Event

namespace Session

/-- The lines up to the first command to leave, with this. -/
def upToExit : List (List UInt8) → List (List UInt8)
  | [] => []
  | line :: later => if Statement.ofBytes line = .exit then [line] else line :: upToExit later

/-- A session whose sink takes everything takes the lines up to the first command to leave. -/
theorem lines_turns {session : Session} {prompt : String} (prompted : session.Prompted prompt)
    (lines : List (List UInt8)) : (turns session lines).map Turn.line = upToExit lines := by
  induction lines generalizing session with
  | nil => rfl
  | cons line later ih =>
    rw [turns_cons prompted.reading, List.map_cons, upToExit]
    by_cases exits : Statement.ofBytes line = .exit
    · have alone : Leaves [line] := ⟨line, List.mem_singleton_self line, exits⟩
      have ended : (session.takeLine line).phase = .done := prompted.foldl_takeLine_of_leaves alone
      rw [if_pos exits, turns_of_stopped (by rw [ended]; decide)]
      rfl
    · rw [if_neg exits, ih (prompted.takeLine exits)]

/-- In each turn one statement is reported. -/
theorem Turn.filterMap_executed (turn : Turn) :
    turn.events.filterMap executed? = [.ofBytes turn.line] := by
  have silent : ((turn.session.reply turn.line).events.map Event.storage).filterMap executed? =
      [] := by simp [executed?]
  have first : executed? (.executing (.ofBytes turn.line) turn.session.table.size) =
      some (.ofBytes turn.line) := rfl
  rw [Turn.events, List.filterMap_cons_some first, silent]

/-- In no turn the end of the input is reported. -/
theorem Turn.endOfInput_not_mem (turn : Turn) : .endOfInput ∉ turn.events := by
  simp [Turn.events]

/-- The log of a session that waits is an account of its table of rows that lines can store. -/
structure Told (session : Session) : Prop where
  ledger : Ledger session.table.size session.log.toList
  filled : ∃ capacity rows, session.table.Filled capacity rows

/-- A new session on a new table has nothing to tell but that it started. -/
theorem told_start (console : Console) (maxPages : Nat) (room : Option Nat) :
    (start console (.empty maxPages) room).Told := by
  have table : (start console (.empty maxPages) room).table = .empty maxPages := (keeps_ask _).1
  have log : (start console (.empty maxPages) room).log =
      #[.sessionStarted (Table.empty maxPages).capacity] := log_ask _
  constructor
  case ledger =>
    rw [table, log]
    exact .first _
  case filled =>
    rw [table]
    exact ⟨_, [], Table.filled_empty maxPages⟩

/-- A line stores a row, finds the table full or has nothing to report. -/
theorem Told.consequence {session : Session} (told : session.Told) (line : List UInt8) :
    Table.Consequence session.table (session.reply line) := by
  obtain ⟨capacity, rows, filled⟩ := told.filled
  exact filled.holds.consequence _

/-- In a turn a rejected row is reported exactly when the line is answered so. -/
theorem Told.filterMap_rejected {turn : Turn} (told : turn.session.Told) :
    turn.events.filterMap rejected? =
      if turn.answer.lines = ["Error: Table full."] then [turn.session.table.size] else [] := by
  rw [Turn.events, List.filterMap_cons_none rfl, Turn.answer]
  cases told.consequence turn.line with
  | stored size_eq other events_eq =>
    rw [if_neg other, events_eq, StorageEvent.storing]
    split
    · rfl
    · rfl
  | rejected state_eq full events_eq =>
    rw [if_pos full, events_eq]
    rfl
  | idle state_eq other events_eq =>
    rw [if_neg other, events_eq]
    rfl

/-- A line continues the account. -/
theorem Told.takeLine {session : Session} (told : session.Told) (line : List UInt8) :
    (session.takeLine line).Told := by
  by_cases reading : session.phase = .reading
  · obtain ⟨capacity, rows, filled⟩ := told.filled
    have reported := @log_takeLine ⟨session, line⟩ reading
    have executing : Ledger session.table.size
        (session.log.toList ++ [.executing (.ofBytes line) session.table.size]) :=
      told.ledger.concat rfl rfl (fun _ _ same => by cases same; rfl) (by simp [level])
    refine ⟨?_, capacity, filled_takeLine filled line⟩
    rw [reported, table_takeLine reading, Turn.events, ← List.singleton_append,
      ← List.append_assoc]
    cases told.consequence line with
    | stored size_eq other events_eq =>
      rw [size_eq, events_eq]
      exact executing.storing
    | rejected state_eq full events_eq =>
      rw [state_eq, events_eq]
      exact executing.concat rfl rfl (by simp) (by simp [level])
    | idle state_eq other events_eq =>
      rw [state_eq, events_eq, List.map_nil, List.append_nil]
      exact executing
  · rwa [takeLine_of_stopped reading]

/-- Lines continue the account. -/
theorem Told.foldl_takeLine {session : Session} (told : session.Told)
    (lines : List (List UInt8)) : (lines.foldl Session.takeLine session).Told := by
  induction lines generalizing session with
  | nil => exact told
  | cons line later ih => exact ih (told.takeLine line)

section

variable (turns : List Turn)

/-- In turns the statements of their lines are reported. -/
theorem filterMap_executed_turns :
    (turns.flatMap Turn.events).filterMap executed? =
      (turns.map Turn.line).map Statement.ofBytes := by
  rw [List.filterMap_flatMap, List.map_map, List.map_eq_flatMap]
  apply List.flatMap_congr
  intro turn _
  rw [turn.filterMap_executed, Function.comp_apply]

/-- In turns a rejected row is reported for each line that is answered so. -/
theorem filterMap_rejected_turns (told : ∀ turn ∈ turns, turn.session.Told) :
    (turns.flatMap Turn.events).filterMap rejected? =
      (turns.filter fun turn => turn.answer.lines = ["Error: Table full."]).map
        fun turn => turn.session.table.size := by
  induction turns with
  | nil => rfl
  | cons turn later ih =>
    obtain ⟨first, others⟩ := List.forall_mem_cons.1 told
    rw [List.flatMap_cons, List.filterMap_append, first.filterMap_rejected, ih others]
    by_cases full : turn.answer.lines = ["Error: Table full."]
    · rw [if_pos full, List.filter_cons_of_pos (by simpa using full), List.map_cons,
        List.singleton_append]
    · rw [if_neg full, List.filter_cons_of_neg (by simpa using full), List.nil_append]

/-- In turns the end of the input is not reported. -/
theorem count_endOfInput_turns : (turns.flatMap Turn.events).count .endOfInput = 0 := by
  rw [List.count_eq_zero, List.mem_flatMap]
  rintro ⟨turn, -, member⟩
  exact turn.endOfInput_not_mem member

end

/-- Behind the last line the end of the input is reported, unless a line was the command to leave,
and in every case the end of the session. -/
theorem log_run (console : Console) (table : Table) (input : List UInt8) :
    let last := (lines input).foldl takeLine (start console table none)
    ∃ ending, (Leaves (lines input) ∧ ending = [] ∨
        ¬Leaves (lines input) ∧ ending = [.endOfInput]) ∧
      (run console table input .endOfInput none).log.toList =
        last.log.toList ++ ending ++ [.sessionEnded last.table.size last.table.pages.count] := by
  intro last
  have waits := prompted_start console table
  have ran : run console table input .endOfInput none = last.endOfInput.close :=
    run_endOfInput console table input none
  rw [ran]
  by_cases leaves : Leaves (lines input)
  · have ended : last.phase = .done := waits.foldl_takeLine_of_leaves leaves
    refine ⟨[], .inl ⟨leaves, rfl⟩, ?_⟩
    simp [endOfInput, close, ended]
  · have reading : last.phase = .reading := (waits.foldl_takeLine leaves).reading
    refine ⟨[.endOfInput], .inr ⟨leaves, rfl⟩, ?_⟩
    simp [endOfInput, close, reading]

section

variable (console : Console) (maxPages : Nat) (input : List UInt8)

/-- The log of a session on a new table is an account of the table that the lines leave. -/
theorem ledger_run :
    Ledger ((lines input).foldl takeLine (start console (.empty maxPages) none)).table.size
      (run console (.empty maxPages) input .endOfInput none).log.toList := by
  have told := (told_start console maxPages none).foldl_takeLine (lines input)
  obtain ⟨ending, shape, log_eq⟩ := log_run console (.empty maxPages) input
  rw [log_eq]
  generalize (lines input).foldl takeLine (start console (.empty maxPages) none) = last at told ⊢
  -- The account of the lines goes on to the end of the session.
  have ledger : Ledger last.table.size (last.log.toList ++ ending) := by
    obtain ⟨-, rfl⟩ | ⟨-, rfl⟩ := shape
    · rw [List.append_nil]
      exact told.ledger
    · exact told.ledger.concat rfl rfl (by simp) (by simp [level])
  exact ledger.concat rfl rfl (by simp) (by simp [level])

/-- Behind some lines the log is the first event and what the turns report. -/
theorem log_foldl_start (lines : List (List UInt8)) :
    (lines.foldl takeLine (start console (.empty maxPages) none)).log.toList =
      .sessionStarted (Table.empty maxPages).capacity ::
        (turns (start console (.empty maxPages) none) lines).flatMap Turn.events := by
  rw [log_foldl_takeLine, start, log_ask]
  rfl

/-- What is not said by the first and the last events of a session is said in its turns. -/
theorem filterMap_log_run {α : Type} {said? : Event → Option α}
    (first : ∀ capacity, said? (.sessionStarted capacity) = none)
    (endOfInput : said? .endOfInput = none)
    (final : ∀ rows pages, said? (.sessionEnded rows pages) = none) :
    (run console (.empty maxPages) input .endOfInput none).log.toList.filterMap said? =
      ((turns (start console (.empty maxPages) none) (lines input)).flatMap
        Turn.events).filterMap said? := by
  obtain ⟨ending, shape, log_eq⟩ := log_run console (.empty maxPages) input
  have quiet : ending.filterMap said? = [] := by
    obtain ⟨-, rfl⟩ | ⟨-, rfl⟩ := shape
    · rfl
    · exact List.filterMap_cons_none endOfInput
  rw [log_eq, log_foldl_start, List.filterMap_append, List.filterMap_append, quiet,
    List.filterMap_cons_none (first _), List.filterMap_cons_none (final _ _), List.filterMap_nil,
    List.append_nil, List.append_nil]

/-- The end of the input is reported once, and not where a line was the command to leave. -/
theorem count_endOfInput_run :
    (Leaves (lines input) → (run console (.empty maxPages) input .endOfInput
      none).log.toList.count .endOfInput = 0) ∧
    (¬Leaves (lines input) → (run console (.empty maxPages) input .endOfInput
      none).log.toList.count .endOfInput = 1) := by
  obtain ⟨ending, shape, log_eq⟩ := log_run console (.empty maxPages) input
  rw [log_eq, log_foldl_start]
  constructor
  · intro leaves
    obtain ⟨-, rfl⟩ | ⟨stays, -⟩ := shape
    · simp [count_endOfInput_turns]
    · exact absurd leaves stays
  · intro stays
    obtain ⟨leaves, -⟩ | ⟨-, rfl⟩ := shape
    · exact absurd leaves stays
    · simp [count_endOfInput_turns]

end

end Session

/-- The log of a whole session on a new table, with so many rows at most, on lines of which it took
each in a turn. -/
structure Chronicle (maxRows : Nat) (lines : List (List UInt8)) (turns : List Session.Turn)
    (events : List Event) : Prop where
  /-- The session and its limit are reported first. -/
  begins : events.head? = some (.sessionStarted maxRows)
  /-- The rows are written page by page and slot by slot. -/
  written_eq : events.filterMap written? =
    (List.range (events.filterMap written?).length).map fun row => (row / 14, row % 14)
  /-- The pages are added in order. -/
  allocated_eq : events.filterMap allocated? = List.range (events.filterMap allocated?).length
  /-- A page stands directly before its first row and nowhere else, and a statement comes with the
  number of rows written before it. -/
  accounted : AllAccounted events
  /-- Each line up to the command to leave is reported as its statement, once. -/
  executed_eq : events.filterMap executed? = (Session.upToExit lines).map Statement.ofBytes
  /-- These lines are the ones that the session took. -/
  turns_eq : turns.map Session.Turn.line = Session.upToExit lines
  /-- Each line that is answered so is reported as rejected, once. -/
  rejected_eq : events.filterMap rejected? =
    (turns.filter fun turn => turn.answer.lines = ["Error: Table full."]).map
      fun turn => turn.session.table.size
  /-- The command to leave comes instead of the end of the input. -/
  left : Session.Leaves lines → events.count .endOfInput = 0
  /-- The end of the input is reported once. -/
  finished : ¬Session.Leaves lines → events.count .endOfInput = 1
  /-- The rows and pages are reported last. -/
  ends : events.getLast? = some (.sessionEnded (events.filterMap written?).length
    (events.filterMap allocated?).length)
  /-- There is no warning and no error. -/
  calm : ∀ event ∈ events, event.level ≠ .warn ∧ event.level ≠ .error

/-- The log of a session on a new table is its chronicle. -/
theorem Session.chronicle_run (console : Console) (maxPages : Nat) (input : List UInt8) :
    Chronicle (Table.empty maxPages).capacity (lines input)
      (turns (start console (.empty maxPages) none) (lines input))
      (run console (.empty maxPages) input .endOfInput none).log.toList := by
  have begun := told_start console maxPages none
  have toldTurns : ∀ turn ∈ turns (start console (.empty maxPages) none) (lines input),
      turn.session.Told := fun turn member =>
    (of_mem_turns (fun _ line told => told.takeLine line) begun member).2.2
  have taken := lines_turns (prompted_start console (.empty maxPages)) (lines input)
  have ledger := ledger_run console maxPages input
  have inputEnds := count_endOfInput_run console maxPages input
  constructor
  case begins =>
    obtain ⟨ending, -, log_eq⟩ := log_run console (.empty maxPages) input
    rw [log_eq, log_foldl_start]
    rfl
  case written_eq =>
    rw [ledger.length_written]
    exact ledger.written_eq
  case allocated_eq => rw [ledger.allocated_eq, List.length_range]
  case accounted => exact ledger.accounted
  case executed_eq =>
    rw [filterMap_log_run _ _ _ (fun _ => rfl) rfl (fun _ _ => rfl), filterMap_executed_turns,
      taken]
  case turns_eq => exact taken
  case rejected_eq =>
    rw [filterMap_log_run _ _ _ (fun _ => rfl) rfl (fun _ _ => rfl),
      filterMap_rejected_turns _ toldTurns]
  case left => exact inputEnds.1
  case finished => exact inputEnds.2
  case ends =>
    obtain ⟨capacity, rows, filled⟩ := (begun.foldl_takeLine (lines input)).filled
    obtain ⟨ending, -, log_eq⟩ := log_run console (.empty maxPages) input
    rw [ledger.length_written, ledger.allocated_eq, List.length_range, log_eq,
      List.getLast?_concat, filled.holds.count_eq, filled.holds.size_eq]
  case calm => exact ledger.calm

end RowStore
