import RowStore.Proofs.Session.Statements
import RowStore.Proofs.Session.Unlimited

/-!
# Sessions one after the other

One console serves any number of sessions, each on the table as the one before left it. All
that it carries from one session to the next besides the prompt is its line buffer, and the
buffer reaches nothing that a session leaves behind: where the first prompt is written whole the
buffer is emptied before a byte is read, and where it is not no byte is read. A session on input
that ends with a line feed can moreover be cut there into two sessions.
-/

namespace RowStore.Session

/-- What a session is given besides console and table. -/
structure Sitting where
  /-- The bytes of the input. -/
  input : List UInt8
  /-- How the input ends. -/
  ending : Ending
  /-- For how many bytes of output there is room; without a number, for all. -/
  room : Option Nat

/-- A whole session on what a sitting gives. -/
def sit (console : Console) (table : Table) (sitting : Sitting) : Session :=
  run console table sitting.input sitting.ending sitting.room

/-- Sessions that one console serves in turn, each on the table that the one before left. -/
def serve (console : Console) (table : Table) : List Sitting → List Session
  | [] => []
  | sitting :: later =>
    let session := sit console table sitting
    session :: serve session.console session.table later

/-- Sessions that have a new console each, on the table that the one before left. -/
def serveAnew (prompt : String) (table : Table) : List Sitting → List Session
  | [] => []
  | sitting :: later =>
    let session := sit { prompt } table sitting
    session :: serveAnew prompt session.table later

/-- All that a session leaves behind besides its console. -/
structure Account where
  /-- The bytes that were written. -/
  output : List UInt8
  /-- How it came out. -/
  result : Except Fault Unit
  /-- The table at its end. -/
  table : Table
  /-- The events. -/
  log : List Event

/-- The account of a session. -/
def account (session : Session) : Account :=
  ⟨session.sink.written.toList, session.result, session.table, session.log.toList⟩

/-- The prompt outlasts a session unchanged. -/
theorem prompt_run (console : Console) (table : Table) (input : List UInt8) (ending : Ending)
    (room : Option Nat) :
    (run console table input ending room).console.prompt = console.prompt := by
  rw [(left_run console table input ending room).prompt_eq, prompt_foldl_takeLine]
  exact (keeps_ask _).2

/-- Sessions with the same prompt leave the same account of inputs whose lines are the same
statements, since no account has the bytes that a console holds. -/
theorem account_run_of_statements {console other : Console}
    (prompt : console.prompt = other.prompt) (table : Table) {input also : List UInt8}
    {ending : Ending}
    (same : (taken input ending).map Statement.ofBytes =
      (taken also ending).map Statement.ofBytes) (room : Option Nat) :
    (run console table input ending room).account =
      (run other table also ending room).account := by
  have alike := congrArg account (unbuffered_run prompt table same room)
  exact alike

/-- The account of a session does not depend on bytes that its console still holds of an earlier
line. -/
theorem account_run (console : Console) (table : Table) (input : List UInt8) (ending : Ending)
    (room : Option Nat) :
    (run console table input ending room).account =
      (run { prompt := console.prompt } table input ending room).account := by
  apply account_run_of_statements
  · rfl
  · rfl

/-- Sessions that one console serves leave the same accounts as sessions with a new console
each. -/
theorem account_serve (console : Console) (table : Table) (sittings : List Sitting) :
    (serve console table sittings).map account =
      (serveAnew console.prompt table sittings).map account := by
  induction sittings generalizing console table with
  | nil => rfl
  | cons sitting later ih =>
    have same : (sit console table sitting).account =
        (sit { prompt := console.prompt } table sitting).account := account_run ..
    have prompt : (sit console table sitting).console.prompt = console.prompt := prompt_run ..
    have table : (sit console table sitting).table =
        (sit { prompt := console.prompt } table sitting).table := congrArg Account.table same
    rw [serve, serveAnew, List.map_cons, List.map_cons, same, ih, prompt, table]

/-- Two sessions whose sinks take everything stand alike, and one has written a front before all
that the other has written. -/
structure Behind (front : List UInt8) (whole later : Session) : Prop where
  phase_eq : whole.phase = later.phase
  table_eq : whole.table = later.table
  prompt_eq : whole.console.prompt = later.console.prompt
  unlimited : whole.sink.room = none
  unlimited_later : later.sink.room = none
  written_eq : whole.sink.written.toList = front ++ later.sink.written.toList

section

variable {front : List UInt8} {whole later : Session}

/-- A line leaves sessions that stand alike so. -/
theorem Behind.takeLine (behind : Behind front whole later) (line : List UInt8) :
    Behind front (whole.takeLine line) (later.takeLine line) := by
  by_cases reading : later.phase = .reading
  · have waits : whole.phase = .reading := by rw [behind.phase_eq, reading]
    have first := answered_takeLine waits behind.unlimited line
    have second := answered_takeLine reading behind.unlimited_later line
    have sameReply : whole.reply line = later.reply line := by
      rw [reply, reply, behind.table_eq]
    constructor
    case phase_eq => rw [first.phase_eq, second.phase_eq, sameReply]
    case table_eq => rw [first.table_eq, second.table_eq, sameReply]
    case prompt_eq => rw [first.prompt_eq, second.prompt_eq, behind.prompt_eq]
    case unlimited => exact first.unlimited
    case unlimited_later => exact second.unlimited
    case written_eq =>
      rw [first.written_eq, second.written_eq, sameReply, behind.prompt_eq, behind.written_eq,
        List.append_assoc]
  · have stopped : whole.phase ≠ .reading := by rwa [behind.phase_eq]
    rwa [takeLine_of_stopped reading, takeLine_of_stopped stopped]

/-- Lines leave sessions that stand alike so. -/
theorem Behind.foldl_takeLine (behind : Behind front whole later) (lines : List (List UInt8)) :
    Behind front (lines.foldl Session.takeLine whole) (lines.foldl Session.takeLine later) := by
  induction lines generalizing whole later with
  | nil => exact behind
  | cons line rest ih => exact ih (behind.takeLine line)

end

/-- A session that waits behind its prompt stands as a new session on its table does, which has
written that prompt alone. -/
theorem Prompted.behind_start {session : Session} {console : Console}
    (prompted : session.Prompted console.prompt) :
    ∃ front, session.sink.written.toList = front ++ Text.Utf8.encode console.prompt.toList ∧
      Behind front session (start console session.table none) := by
  obtain ⟨front, before⟩ := prompted.prompt_last
  refine ⟨front, before.symm, ?_⟩
  rw [start, ask_unlimited rfl rfl]
  constructor
  case phase_eq => exact prompted.reading
  case table_eq => rfl
  case prompt_eq => exact prompted.prompt_eq
  case unlimited => exact prompted.unlimited
  case unlimited_later => rfl
  case written_eq => simp [before]

/-- Input that can be cut behind a line feed, with no command to leave before it, is as good as
two sessions: the second prompt of these takes the place of the one that showed the end of the
first. -/
theorem run_append (console : Console) (table : Table) {front : List UInt8}
    (ended : Ended front) (stays : ¬Leaves (lines front)) (later : List UInt8) :
    let first := run console table front .endOfInput none
    let second := run first.console first.table later .endOfInput none
    let whole := run console table (front ++ later) .endOfInput none
    second.table = whole.table ∧ second.result = whole.result ∧
      ∃ before, first.sink.written.toList = before ++ Text.Utf8.encode console.prompt.toList ∧
        whole.sink.written.toList = before ++ second.sink.written.toList := by
  intro first second whole
  obtain ⟨last, last_eq⟩ : ∃ last, last =
      (lines front).foldl takeLine (start console table none) := ⟨_, rfl⟩
  have firstLeft : first.Left last .endOfInput := by
    rw [last_eq]
    exact left_run console table front .endOfInput none
  have wholeLeft : whole.Left ((lines later).foldl takeLine last) .endOfInput := by
    have left := left_run console table (front ++ later) .endOfInput none
    rw [taken, lines_append ended, List.foldl_append, ← last_eq] at left
    exact left
  have secondLeft : second.Left
      ((lines later).foldl takeLine (start first.console last.table none)) .endOfInput := by
    rw [← firstLeft.table_eq]
    exact left_run first.console first.table later .endOfInput none
  -- Where the first session ends, the one on all of the input waits behind the same prompt.
  have samePrompt : first.console.prompt = console.prompt := prompt_run ..
  have prompted : last.Prompted first.console.prompt := by
    rw [last_eq, samePrompt]
    exact (prompted_start console table).foldl_takeLine stays
  obtain ⟨before, written, begins⟩ := prompted.behind_start
  have ends := begins.foldl_takeLine (lines later)
  have phase : second.phase = whole.phase := by
    rw [secondLeft.phase_eq, wholeLeft.phase_eq, ends.phase_eq]
  refine ⟨?_, ?_, before, ?_, ?_⟩
  · rw [secondLeft.table_eq, wholeLeft.table_eq, ends.table_eq]
  · rw [result, result, phase]
  · rw [firstLeft.sink_eq, written, samePrompt]
  · rw [wholeLeft.sink_eq, secondLeft.sink_eq, ends.written_eq]

/-- Sessions that one console serves, whatever their inputs and sinks, come out as with a new
console each. And a session without failures on input that can be cut behind a line feed, with
no command to leave before it, leaves the table of two sessions on the two parts, and writes
what these write without the prompt at the end of the first. -/
theorem sessions_compose (console : Console) (table : Table) :
    (∀ sittings, (serve console table sittings).map account =
      (serveAnew console.prompt table sittings).map account) ∧
    ∀ front later, Ended front → ¬Leaves (lines front) →
      let first := run console table front .endOfInput none
      let second := run first.console first.table later .endOfInput none
      let whole := run console table (front ++ later) .endOfInput none
      second.table = whole.table ∧ second.result = whole.result ∧
        ∃ before,
          first.sink.written.toList = before ++ Text.Utf8.encode console.prompt.toList ∧
          whole.sink.written.toList = before ++ second.sink.written.toList := by
  refine ⟨account_serve console table, ?_⟩
  intro front later ended stays
  exact run_append console table ended stays later

/-- A row that one session inserts and the next one shows. -/
theorem sessions_compose_insert_select :
    let front := Text.Utf8.encode "insert 1 a b\n".toList
    let later := Text.Utf8.encode "select".toList
    Ended front ∧ ¬Leaves (lines front) ∧
      let first := run { prompt := "> " } (.empty 1) front .endOfInput none
      let second := run first.console first.table later .endOfInput none
      let whole := run { prompt := "> " } (.empty 1) (front ++ later) .endOfInput none
      second.table = whole.table ∧ second.result = whole.result ∧
        ∃ before, first.sink.written.toList = before ++ Text.Utf8.encode "> ".toList ∧
          whole.sink.written.toList = before ++ second.sink.written.toList := by
  intro front later
  have ended : Ended front := .inr (by decide)
  have stays : ¬Leaves (lines front) := by unfold Leaves; decide
  exact ⟨ended, stays,
    (sessions_compose { prompt := "> " } (.empty 1)).2 front later ended stays⟩

end RowStore.Session
