import RowStore.Proofs.Session.Room
import RowStore.Proofs.Statement.Dump

/-!
# Sessions turn by turn

In each turn a session takes one line, with whatever sink it has. What it writes, what it reports
and which rows its table holds is therefore said for one turn, and follows for all turns in order.
-/

namespace RowStore.Session

/-- The answer to the line of a turn. -/
def Turn.answer (turn : Turn) : Outcome := (turn.session.reply turn.line).answer

/-- What is written in a turn: the answer, and the next prompt unless the session ends. -/
def Turn.output (turn : Turn) : List UInt8 :=
  Text.Utf8.encode turn.answer.chars ++
    promptBehind turn.session.console.prompt turn.answer.control

/-- What is reported in a turn: the statement with the rows stored before it, and then what the
table reports. -/
def Turn.events (turn : Turn) : List Event :=
  .executing (.ofBytes turn.line) turn.session.table.size ::
    (turn.session.reply turn.line).events.map Event.storage

/-- Whether the session broke off over a write. -/
def Refused (session : Session) : Prop := session.phase = .broken .writeRefused

variable {session : Session}

/-- A write that is not refused is written whole and leaves the session where it stands. -/
theorem emit_whole {bytes : List UInt8} (whole : ¬(session.emit bytes).Refused) :
    (session.emit bytes).phase = session.phase ∧
      (session.emit bytes).sink.written.toList = session.sink.written.toList ++ bytes := by
  rw [Refused] at whole
  cases unlimited : session.sink.room with
  | none =>
    rw [emit_unlimited unlimited]
    exact ⟨rfl, Array.toList_appendList⟩
  | some room =>
    by_cases fit : bytes.length ≤ room
    · simp [emit, Sink.write, unlimited, fit, List.take_of_length_le]
    · simp [emit, Sink.write, unlimited, fit] at whole

/-- A prompt that is not refused is written whole. -/
theorem ask_whole (whole : ¬session.ask.Refused) :
    session.ask.sink.written.toList =
      session.sink.written.toList ++ Text.Utf8.encode session.console.prompt.toList := by
  obtain ⟨written, stopped⟩ := ask_cases session
  by_cases prompted :
      (session.emit (Text.Utf8.encode session.console.prompt.toList)).phase = .reading
  · have accepted : ¬(session.emit (Text.Utf8.encode session.console.prompt.toList)).Refused := by
      rw [Refused, prompted]
      decide
    rw [written prompted]
    exact (emit_whole accepted).2
  · rw [stopped prompted] at whole ⊢
    exact (emit_whole whole).2

/-- In a turn over which the session does not break off, its output is written whole. -/
theorem written_takeLine {turn : Turn} (reading : turn.session.phase = .reading)
    (whole : ¬(turn.session.takeLine turn.line).Refused) :
    (turn.session.takeLine turn.line).sink.written.toList =
      turn.session.sink.written.toList ++ turn.output := by
  obtain ⟨session, line⟩ := turn
  have taken := takeLine_eq reading line
  obtain ⟨answered, same⟩ : ∃ answered, (session.carry line).emit
      (Text.Utf8.encode (session.reply line).answer.chars) = answered := ⟨_, rfl⟩
  rw [same] at taken
  have accepted : ¬answered.Refused := by
    intro refused
    have stays : answered.settle (session.reply line).answer.control = answered := by
      rw [Refused] at refused
      simp only [settle, refused]
    rw [taken, stays] at whole
    exact whole refused
  obtain ⟨phase, written⟩ :
      answered.phase = .reading ∧ answered.sink.written.toList =
        session.sink.written.toList ++ Text.Utf8.encode (session.reply line).answer.chars := by
    rw [← same] at accepted ⊢
    obtain ⟨phase, written⟩ := emit_whole accepted
    exact ⟨phase.trans reading, written⟩
  have prompt : answered.console.prompt = session.console.prompt := by
    rw [← same]
    rfl
  rw [taken] at whole ⊢
  simp only [Turn.output, Turn.answer]
  cases control : (session.reply line).answer.control with
  | proceed =>
    rw [control, settle_proceed phase] at whole
    rw [settle_proceed phase, ask_whole whole, written, prompt, promptBehind, List.append_assoc]
  | stop => rw [settle_stop phase, promptBehind, List.append_nil, written]

/-- The first line that a session takes makes its first turn. -/
theorem turns_cons (reading : session.phase = .reading) (line : List UInt8)
    (later : List (List UInt8)) :
    turns session (line :: later) = ⟨session, line⟩ :: turns (session.takeLine line) later := by
  rw [turns, reading]

/-- A turn takes one of the lines offered and begins in a session that waits. Whatever holds of the
first session and is kept by every line holds of that session. -/
theorem of_mem_turns {motive : Session → Prop}
    (step : ∀ session line, motive session → motive (session.takeLine line))
    (first : motive session)
    {lines : List (List UInt8)} {turn : Turn} (member : turn ∈ turns session lines) :
    turn.line ∈ lines ∧ turn.session.phase = .reading ∧ motive turn.session := by
  induction lines generalizing session with
  | nil => cases member
  | cons line later ih =>
    by_cases reading : session.phase = .reading
    · rw [turns_cons reading] at member
      rcases List.mem_cons.1 member with rfl | after
      · exact ⟨List.mem_cons_self .., reading, first⟩
      · obtain ⟨among, waits, held⟩ := ih (step session line first) after
        exact ⟨List.mem_cons_of_mem _ among, waits, held⟩
    · rw [turns_of_stopped reading] at member
      cases member

/-- A session that broke off over a write takes no more lines. -/
theorem Refused.foldl_takeLine (refused : session.Refused) (lines : List (List UInt8)) :
    (lines.foldl Session.takeLine session).Refused := by
  have stopped : session.phase ≠ .reading := by rw [refused]; decide
  rwa [foldl_takeLine_of_stopped stopped]

/-- A session that does not break off over a write has written the output of its turns. -/
theorem written_foldl_takeLine {lines : List (List UInt8)}
    (whole : ¬(lines.foldl takeLine session).Refused) :
    (lines.foldl takeLine session).sink.written.toList =
      session.sink.written.toList ++ (turns session lines).flatMap Turn.output := by
  induction lines generalizing session with
  | nil => simp [turns]
  | cons line later ih =>
    by_cases reading : session.phase = .reading
    · have accepted : ¬(session.takeLine line).Refused :=
        fun refused => whole (refused.foldl_takeLine later)
      have first := @written_takeLine ⟨session, line⟩ reading accepted
      rw [turns_cons reading, List.foldl_cons, ih whole, first, List.flatMap_cons,
        List.append_assoc]
    · rw [foldl_takeLine_of_stopped reading, turns_of_stopped reading, List.flatMap_nil,
        List.append_nil]

/-- A new session that does not break off over its first prompt has written it. -/
theorem written_start {console : Console} {table : Table} {room : Option Nat}
    (whole : ¬(start console table room).Refused) :
    (start console table room).sink.written.toList =
      Text.Utf8.encode console.prompt.toList := by
  rw [start] at whole ⊢
  rw [ask_whole whole]
  rfl

/-- A session that does not break off over a write has written its first prompt and the output of
its turns. -/
theorem written_run {console : Console} {table : Table} {input : List UInt8} {ending : Ending}
    {room : Option Nat}
    (whole : (run console table input ending room).result ≠ .error .writeRefused) :
    (run console table input ending room).sink.written.toList =
      Text.Utf8.encode console.prompt.toList ++
        (turns (start console table room) (taken input ending)).flatMap Turn.output := by
  have left := left_run console table input ending room
  have accepted :
      ¬((taken input ending).foldl takeLine (start console table room)).Refused := by
    intro refused
    have broken : (run console table input ending room).phase = .broken .writeRefused := by
      rw [left.phase_eq, refused]
      exact if_neg (by decide)
    exact whole (by rw [result, broken])
  have begun : ¬(start console table room).Refused :=
    fun refused => accepted (refused.foldl_takeLine _)
  rw [left.sink_eq, written_foldl_takeLine accepted, written_start begun]

/-- A session whose sink takes everything comes to an orderly end when its input does. -/
theorem result_run_endOfInput (console : Console) (table : Table) (input : List UInt8) :
    (run console table input .endOfInput none).result = .ok () := by
  have left := left_run console table input .endOfInput none
  have waits := prompted_start console table
  by_cases leaves : Leaves (taken input .endOfInput)
  · exact left.result_of_done (waits.foldl_takeLine_of_leaves leaves)
  · exact left.result_endOfInput (waits.foldl_takeLine leaves).reading

/-- Writing reports nothing. -/
theorem log_emit (session : Session) (bytes : List UInt8) :
    (session.emit bytes).log = session.log :=
  rfl

/-- Prompting reports nothing. -/
theorem log_ask (session : Session) : session.ask.log = session.log := by
  rw [ask]
  split
  · rfl
  · rfl

/-- In a turn its events are reported, whether or not the answer can be written. -/
theorem log_takeLine {turn : Turn} (reading : turn.session.phase = .reading) :
    (turn.session.takeLine turn.line).log.toList = turn.session.log.toList ++ turn.events := by
  obtain ⟨session, line⟩ := turn
  have settled (answered : Session) (control : Control) :
      (answered.settle control).log = answered.log := by
    rw [settle.eq_def]
    split
    · rw [log_ask]
    · rfl
    · rfl
  rw [takeLine_eq reading, settled, log_emit, carry]
  simp [Turn.events]

/-- The events of its turns are what a session has reported of its lines. -/
theorem log_foldl_takeLine (session : Session) (lines : List (List UInt8)) :
    (lines.foldl takeLine session).log.toList =
      session.log.toList ++ (turns session lines).flatMap Turn.events := by
  induction lines generalizing session with
  | nil => simp [turns]
  | cons line later ih =>
    by_cases reading : session.phase = .reading
    · have first := @log_takeLine ⟨session, line⟩ reading
      rw [turns_cons reading, List.foldl_cons, ih, first, List.flatMap_cons, List.append_assoc]
    · rw [foldl_takeLine_of_stopped reading, turns_of_stopped reading, List.flatMap_nil,
        List.append_nil]

section

variable {capacity : Nat} {rows : List Row}

/-- A turn keeps the table to rows that lines can store. -/
theorem filled_takeLine (filled : session.table.Filled capacity rows) (line : List UInt8) :
    ∃ more, (session.takeLine line).table.Filled capacity more := by
  by_cases reading : session.phase = .reading
  · rw [table_takeLine reading]
    exact filled.execute_parse _
  · rw [takeLine_of_stopped reading]
    exact ⟨rows, filled⟩

/-- Lines keep the table to rows that lines can store. -/
theorem filled_foldl_takeLine (filled : session.table.Filled capacity rows)
    (lines : List (List UInt8)) :
    ∃ more, (lines.foldl takeLine session).table.Filled capacity more := by
  induction lines generalizing session rows with
  | nil => exact ⟨rows, filled⟩
  | cons line later ih =>
    obtain ⟨more, next⟩ := filled_takeLine filled line
    exact ih next

/-- A session keeps the table to rows that lines can store, however it comes out. -/
theorem filled_run {table : Table} (filled : table.Filled capacity rows) (console : Console)
    (input : List UInt8) (ending : Ending) (room : Option Nat) :
    ∃ more, (run console table input ending room).table.Filled capacity more := by
  have unchanged : (start console table room).table = table := (keeps_ask _).1
  rw [(left_run console table input ending room).table_eq]
  rw [← unchanged] at filled
  exact filled_foldl_takeLine filled _

/-- In each turn a session that waits takes one of the lines offered, with a table of rows that
lines can store. -/
theorem filled_turns (filled : session.table.Filled capacity rows)
    {lines : List (List UInt8)} {turn : Turn} (member : turn ∈ turns session lines) :
    turn.line ∈ lines ∧ turn.session.phase = .reading ∧
      ∃ more, turn.session.table.Filled capacity more := by
  refine of_mem_turns (motive := fun session => ∃ more, session.table.Filled capacity more) ?_
    ⟨rows, filled⟩ member
  intro session line stored
  obtain ⟨more, fills⟩ := stored
  exact filled_takeLine fills line

end

end RowStore.Session
