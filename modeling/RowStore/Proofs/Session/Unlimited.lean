import RowStore.Proofs.Session.Lines

/-!
# Sessions with a sink that takes everything

Where the sink takes everything, no write can break a session off. A line is then answered
whole, and the session waits behind its prompt for the next line until one is the command to
leave.
-/

namespace RowStore

namespace Session

/-- A sink that takes everything is written to, and nothing else happens. -/
theorem emit_unlimited {session : Session} (unlimited : session.sink.room = none)
    (bytes : List UInt8) :
    session.emit bytes = { session with sink := ⟨session.sink.written ++ bytes, none⟩ } := by
  have accepted : session.sink.write bytes = (⟨session.sink.written ++ bytes, none⟩, true) := by
    rw [Sink.write, unlimited]
  rw [emit, accepted]
  rfl

/-- A sink that takes everything gets the prompt, and the line before is forgotten. -/
theorem ask_unlimited {session : Session} (reading : session.phase = .reading)
    (unlimited : session.sink.room = none) :
    session.ask =
      { session with
        console := { session.console with buffer := #[] }
        sink :=
          ⟨session.sink.written ++ Text.Utf8.encode session.console.prompt.toList, none⟩ } := by
  rw [ask, emit_unlimited unlimited]
  simp only [reading]

/-- A sink that takes everything gets the answer to a line, and the next prompt unless the line
was the command to leave. -/
theorem takeLine_unlimited {session : Session} (reading : session.phase = .reading)
    (unlimited : session.sink.room = none) (line : List UInt8) :
    let written := session.sink.written ++ Text.Utf8.encode (session.reply line).answer.chars
    (session.takeLine line).table = (session.reply line).state ∧
    (session.takeLine line).console.prompt = session.console.prompt ∧
    match (session.reply line).answer.control with
    | .proceed => (session.takeLine line).phase = .reading ∧ (session.takeLine line).sink =
        ⟨written ++ Text.Utf8.encode session.console.prompt.toList, none⟩
    | .stop => (session.takeLine line).phase = .done ∧ (session.takeLine line).sink =
        ⟨written, none⟩ := by
  intro written
  have accepted : (session.carry line).sink.room = none := unlimited
  obtain ⟨answered, same⟩ : ∃ answered, (session.carry line).emit
      (Text.Utf8.encode (session.reply line).answer.chars) = answered := ⟨_, rfl⟩
  have waiting : answered.phase = .reading := by
    rw [← same, emit_unlimited accepted]
    exact reading
  have sink : answered.sink = ⟨written, none⟩ := by rw [← same, emit_unlimited accepted]; rfl
  have table : answered.table = (session.reply line).state := by
    rw [← same, emit_unlimited accepted]
    rfl
  have prompt : answered.console.prompt = session.console.prompt := by
    rw [← same, emit_unlimited accepted]
    rfl
  rw [takeLine_eq reading, same]
  cases (session.reply line).answer.control with
  | proceed =>
    have endless : answered.sink.room = none := by rw [sink]
    rw [settle_proceed waiting, ask_unlimited waiting endless]
    exact ⟨table, prompt, waiting, by rw [sink, prompt]⟩
  | stop =>
    rw [settle_stop waiting]
    exact ⟨table, prompt, rfl, sink⟩

/-- Bytes that follow the answer to a line: the next prompt, unless the session ends. -/
def promptBehind (prompt : String) : Control → List UInt8
  | .proceed => Text.Utf8.encode prompt.toList
  | .stop => []

/-- Where a session stands behind an answer that was written whole. -/
def phaseBehind : Control → Phase
  | .proceed => .reading
  | .stop => .done

/-- A session has taken a line with a sink that takes everything. -/
structure Answered (session next : Session) (line : List UInt8) : Prop where
  table_eq : next.table = (session.reply line).state
  prompt_eq : next.console.prompt = session.console.prompt
  unlimited : next.sink.room = none
  phase_eq : next.phase = phaseBehind (session.reply line).answer.control
  written_eq : next.sink.written.toList = session.sink.written.toList ++
    (Text.Utf8.encode (session.reply line).answer.chars ++
      promptBehind session.console.prompt (session.reply line).answer.control)

/-- A waiting session answers a line and prompts again, unless it was told to leave. -/
theorem answered_takeLine {session : Session} (reading : session.phase = .reading)
    (unlimited : session.sink.room = none) (line : List UInt8) :
    Answered session (session.takeLine line) line := by
  obtain ⟨table, prompt, next⟩ := takeLine_unlimited reading unlimited line
  obtain ⟨phase, sink⟩ :
      (session.takeLine line).phase = phaseBehind (session.reply line).answer.control ∧
      (session.takeLine line).sink = ⟨session.sink.written ++
        Text.Utf8.encode (session.reply line).answer.chars ++
        promptBehind session.console.prompt (session.reply line).answer.control, none⟩ := by
    cases control : (session.reply line).answer.control with
    | proceed => simpa only [control, phaseBehind, promptBehind] using next
    | stop => simpa [control, phaseBehind, promptBehind] using next
  constructor
  case table_eq => exact table
  case prompt_eq => exact prompt
  case unlimited => rw [sink]
  case phase_eq => exact phase
  case written_eq => simp [sink]

/-- Some line is the command to leave. -/
def Leaves (lines : List (List UInt8)) : Prop :=
  ∃ line ∈ lines, Statement.ofBytes line = .exit

/-- A session that waits behind its prompt, with a sink that takes everything. -/
structure Prompted (session : Session) (prompt : String) : Prop where
  reading : session.phase = .reading
  prompt_eq : session.console.prompt = prompt
  unlimited : session.sink.room = none
  prompt_last : Text.Utf8.encode prompt.toList <:+ session.sink.written.toList

/-- A new session waits behind its first prompt. -/
theorem prompted_start (console : Console) (table : Table) :
    (start console table none).Prompted console.prompt := by
  rw [start, ask_unlimited rfl rfl]
  exact ⟨rfl, rfl, rfl, by simp⟩

section

variable {session : Session} {prompt : String}

/-- A waiting session answers a line and prompts again, unless it was told to leave. -/
theorem Prompted.answered (prompted : session.Prompted prompt) (line : List UInt8) :
    Answered session (session.takeLine line) line :=
  answered_takeLine prompted.reading prompted.unlimited line

/-- A line leaves the session behind its prompt, unless it is the command to leave. -/
theorem Prompted.takeLine (prompted : session.Prompted prompt) {line : List UInt8}
    (stays : Statement.ofBytes line ≠ .exit) : (session.takeLine line).Prompted prompt := by
  have answered := prompted.answered line
  have proceeds : (session.reply line).answer.control = .proceed :=
    Statement.control_eq_proceed stays
  obtain ⟨-, rfl, -, -⟩ := prompted
  constructor
  case reading => rw [answered.phase_eq, proceeds, phaseBehind]
  case prompt_eq => exact answered.prompt_eq
  case unlimited => exact answered.unlimited
  case prompt_last =>
    rw [answered.written_eq, proceeds, promptBehind, ← List.append_assoc]
    exact List.suffix_append _ _

/-- Lines leave the session behind its prompt when none is the command to leave. -/
theorem Prompted.foldl_takeLine (prompted : session.Prompted prompt)
    {lines : List (List UInt8)} (stays : ¬Leaves lines) :
    (lines.foldl Session.takeLine session).Prompted prompt := by
  induction lines generalizing session with
  | nil => exact prompted
  | cons line later ih =>
    have first : Statement.ofBytes line ≠ .exit :=
      fun exits => stays ⟨line, List.mem_cons_self .., exits⟩
    have others : ¬Leaves later :=
      fun ⟨other, member, exits⟩ => stays ⟨other, List.mem_cons_of_mem _ member, exits⟩
    exact ih (prompted.takeLine first) others

/-- The command to leave takes the session to its end, whatever lines follow. -/
theorem Prompted.foldl_takeLine_of_leaves (prompted : session.Prompted prompt)
    {lines : List (List UInt8)} (leaves : Leaves lines) :
    (lines.foldl Session.takeLine session).phase = .done := by
  induction lines generalizing session with
  | nil =>
    obtain ⟨line, member, -⟩ := leaves
    cases member
  | cons line later ih =>
    rw [List.foldl_cons]
    by_cases exits : Statement.ofBytes line = .exit
    · have stops : (session.reply line).answer.control = .stop :=
        Statement.control_eq_stop_iff.2 exits
      have ended : (session.takeLine line).phase = .done := by
        rw [(prompted.answered line).phase_eq, stops, phaseBehind]
      have stopped : (session.takeLine line).phase ≠ .reading := by rw [ended]; decide
      rw [foldl_takeLine_of_stopped stopped, ended]
    · obtain ⟨other, member, leave⟩ := leaves
      rcases List.mem_cons.1 member with rfl | after
      · exact absurd leave exits
      · exact ih (prompted.takeLine exits) ⟨other, after, leave⟩

end

end Session

end RowStore
