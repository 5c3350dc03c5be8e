import RowStore.Proofs.Session.Lines

/-!
# Whole lines and endings

Input ends in whole lines or within one. The front of the input up to its last line feed is cut
into its lines whatever follows, so what a session does with whole lines does not depend on
bytes behind them. How the input ends decides whether an unfinished line is taken as well, and
in which phase a session that still waits is left.
-/

namespace RowStore

/-- Where a session is left that still waits when the input ends so. -/
def Ending.phase : Ending → Phase
  | .endOfInput => .done
  | .failure => .broken .readFailed

namespace Session

/-- Bytes that no unfinished line ends. -/
def Ended (bytes : List UInt8) : Prop := bytes = [] ∨ bytes.getLast? = some lineFeed

/-- The front of the input up to its last line feed. -/
def wholeLines (input : List UInt8) : List UInt8 := (cut input).complete.flatten

/-- The lines that are taken of input that ends so: an unfinished line is one only at an orderly
end. -/
def taken (input : List UInt8) : Ending → List (List UInt8)
  | .endOfInput => lines input
  | .failure => (cut input).complete

/-- Complete lines are cut off unchanged, whatever follows them. -/
theorem cut_flatten_append {complete : List (List UInt8)}
    (ended : ∀ line ∈ complete, ∃ text, line = text ++ [lineFeed] ∧ lineFeed ∉ text)
    (rest : List UInt8) :
    cut (complete.flatten ++ rest) =
      ⟨complete ++ (cut rest).complete, (cut rest).unfinished⟩ := by
  induction complete with
  | nil => rfl
  | cons line later ih =>
    obtain ⟨⟨text, rfl, clean⟩, others⟩ := List.forall_mem_cons.1 ended
    have joined : ((text ++ [lineFeed]) :: later).flatten ++ rest =
        text ++ lineFeed :: (later.flatten ++ rest) := by simp
    rw [joined, cut_append_lineFeed clean, ih others]
    rfl

/-- Bytes are ended when cutting leaves no line unfinished. -/
theorem ended_iff {bytes : List UInt8} : Ended bytes ↔ (cut bytes).unfinished = [] := by
  obtain ⟨joined, ended, clean⟩ := cut_exact bytes
  by_cases finished : (cut bytes).unfinished = []
  · -- The last byte is that of the last complete line, if there is any.
    have whole : (cut bytes).complete.flatten = bytes := by
      rwa [finished, List.append_nil] at joined
    refine iff_of_true ?_ finished
    rcases List.eq_nil_or_concat (cut bytes).complete with none | ⟨earlier, line, some⟩
    · left
      rw [← whole, none, List.flatten_nil]
    · right
      obtain ⟨text, rfl, -⟩ := ended line (by simp [some])
      rw [← whole, some]
      simp
  · -- The last byte is that of the unfinished line, which has no line feed.
    refine iff_of_false ?_ finished
    rintro (rfl | feed)
    · exact finished rfl
    · have last : bytes.getLast? = (cut bytes).unfinished.getLast? := by
        conv => lhs; rw [← joined]
        rw [List.getLast?_append, List.getLast?_eq_some_getLast finished, Option.some_or]
      exact clean (List.mem_of_getLast? (last.symm.trans feed))

/-- Ended bytes are cut on their own, whatever follows them. -/
theorem cut_append {front : List UInt8} (ended : Ended front) (rest : List UInt8) :
    cut (front ++ rest) =
      ⟨(cut front).complete ++ (cut rest).complete, (cut rest).unfinished⟩ := by
  obtain ⟨joined, complete, -⟩ := cut_exact front
  rw [ended_iff.1 ended, List.append_nil] at joined
  have separate := cut_flatten_append complete rest
  rwa [joined] at separate

/-- The lines behind ended bytes follow the lines of these. -/
theorem lines_append {front : List UInt8} (ended : Ended front) (rest : List UInt8) :
    lines (front ++ rest) = lines front ++ lines rest := by
  have whole : lines front = (cut front).complete := by
    have finished := ended_iff.1 ended
    rw [lines]
    generalize cut front = parts at finished
    obtain ⟨complete, unfinished⟩ := parts
    simp only at finished
    rw [finished]
  rw [whole, lines, cut_append ended, lines]
  obtain ⟨complete, unfinished⟩ := cut rest
  cases unfinished with
  | nil => rfl
  | cons byte later => simp

/-- Whole lines have no line of their own unfinished. -/
theorem cut_wholeLines (input : List UInt8) :
    cut (wholeLines input) = ⟨(cut input).complete, []⟩ := by
  have alone := cut_flatten_append (cut_exact input).2.1 []
  rwa [List.append_nil, cut, List.append_nil] at alone

/-- The lines of whole lines are the complete lines of the input. -/
theorem lines_wholeLines (input : List UInt8) :
    lines (wholeLines input) = (cut input).complete := by
  rw [lines, cut_wholeLines]

/-- Whole lines are ended, and no longer front of the input is. -/
theorem wholeLines_longest (input : List UInt8) :
    wholeLines input <+: input ∧ Ended (wholeLines input) ∧
      ∀ front, front <+: input → Ended front → front <+: wholeLines input := by
  refine ⟨⟨(cut input).unfinished, (cut_exact input).1⟩, ?_, ?_⟩
  · rw [ended_iff, cut_wholeLines]
  · rintro front ⟨rest, rfl⟩ ended
    have joined := (cut_exact front).1
    rw [ended_iff.1 ended, List.append_nil] at joined
    refine ⟨(cut rest).complete.flatten, ?_⟩
    rw [wholeLines, cut_append ended, List.flatten_append, joined]

/-- The report of the end changes the log and nothing else. -/
theorem close_keeps (session : Session) :
    session.close.table = session.table ∧ session.close.sink = session.sink ∧
      session.close.phase = session.phase ∧ session.close.console = session.console := by
  rw [close]
  split
  · exact ⟨rfl, rfl, rfl, rfl⟩
  · exact ⟨rfl, rfl, rfl, rfl⟩

/-- A session was left as it stood behind its last line, when the input ended so. -/
structure Left (session last : Session) (ending : Ending) : Prop where
  table_eq : session.table = last.table
  sink_eq : session.sink = last.sink
  phase_eq : session.phase = if last.phase = .reading then ending.phase else last.phase
  prompt_eq : session.console.prompt = last.console.prompt

/-- An orderly end of the input brings a waiting session to its end. -/
theorem left_endOfInput (last : Session) : last.endOfInput.close.Left last .endOfInput := by
  obtain ⟨table, sink, phase, console⟩ := close_keeps last.endOfInput
  constructor
  case table_eq => rw [table, endOfInput]; split <;> rfl
  case sink_eq => rw [sink, endOfInput]; split <;> rfl
  case phase_eq =>
    rw [phase, endOfInput]
    cases stands : last.phase <;> simp [stands, Ending.phase]
  case prompt_eq => rw [console, endOfInput]; split <;> rfl

/-- A failure of the input breaks a waiting session off and drops its unfinished line. -/
theorem left_failure (last : Session) (pending : List UInt8) :
    ((last.collect pending).finish .failure).close.Left last .failure := by
  obtain ⟨table, sink, phase, console⟩ := close_keeps ((last.collect pending).finish .failure)
  constructor
  case table_eq => rw [table, collect]; cases stands : last.phase <;> simp [finish, stands]
  case sink_eq => rw [sink, collect]; cases stands : last.phase <;> simp [finish, stands]
  case phase_eq =>
    rw [phase, collect]
    cases stands : last.phase <;> simp [finish, stands, Ending.phase]
  case prompt_eq => rw [console, collect]; cases stands : last.phase <;> simp [finish, stands]

/-- A whole session takes the lines of its input and is then left. -/
theorem left_run (console : Console) (table : Table) (input : List UInt8) (ending : Ending)
    (room : Option Nat) :
    (run console table input ending room).Left
      ((taken input ending).foldl takeLine (start console table room)) ending := by
  cases ending with
  | endOfInput =>
    rw [run_endOfInput]
    exact left_endOfInput _
  | failure =>
    rw [run, foldl_feed (fresh_start console table room)]
    exact left_failure _ _

/-- A session that came to its end behind a line is left in good order. -/
theorem Left.result_of_done {session last : Session} {ending : Ending}
    (left : session.Left last ending) (ended : last.phase = .done) :
    session.result = .ok () := by
  rw [result, left.phase_eq, ended, if_neg (by decide)]

/-- A session that still waits comes to its end when the input does. -/
theorem Left.result_endOfInput {session last : Session} (left : session.Left last .endOfInput)
    (waits : last.phase = .reading) : session.result = .ok () := by
  rw [result, left.phase_eq, if_pos waits, Ending.phase]

/-- A session that still waits breaks off when the input fails. -/
theorem Left.result_failure {session last : Session} (left : session.Left last .failure)
    (waits : last.phase = .reading) : session.result = .error .readFailed := by
  rw [result, left.phase_eq, if_pos waits, Ending.phase]

end Session

end RowStore
