import RowStore.Proofs.Session.Endings
import RowStore.Proofs.Session.Unlimited

/-!
# Input that fails

A session whose input fails has taken the whole lines before the failure and nothing else: the
bytes of an unfinished line are dropped, whatever statement they would have been. The same
bytes are a line when the input comes to its end in good order.
-/

namespace RowStore.Session

/-- The lines of input that does not end with a line feed. -/
theorem lines_of_unfinished {input line : List UInt8} (parts : input = wholeLines input ++ line)
    (begun : line ≠ []) : lines input = (cut input).complete ++ [line] := by
  have unfinished : (cut input).unfinished = line :=
    List.append_cancel_left ((cut_exact input).1.trans parts)
  rw [lines]
  generalize cut input = pieces at unfinished ⊢
  obtain ⟨complete, rest⟩ := pieces
  simp only at unfinished
  rw [unfinished]
  cases line with
  | nil => exact absurd rfl begun
  | cons byte later => rfl

/-- A session whose sink takes everything is left in good order when the input ends behind a
line. -/
theorem Answered.result_endOfInput {session next full : Session} {line : List UInt8}
    (answered : Answered session next line) (left : full.Left next .endOfInput) :
    full.result = .ok () := by
  have phase := answered.phase_eq
  cases control : (session.reply line).answer.control with
  | proceed =>
    rw [control, phaseBehind] at phase
    exact left.result_endOfInput phase
  | stop =>
    rw [control, phaseBehind] at phase
    exact left.result_of_done phase

/-- A session on input that fails writes what it writes on the whole lines of the input, and
leaves the same table. It is reported as failed unless one of them is the command to leave. The
unfinished line behind them is not carried out, while an orderly end of the input has it carried
out and answered. -/
theorem run_failure (console : Console) (table : Table) (input : List UInt8) :
    let whole := wholeLines input
    let failed := run console table input .failure none
    let ended := run console table whole .endOfInput none
    (whole <+: input ∧ Ended whole ∧
      ∀ front, front <+: input → Ended front → front <+: whole) ∧
    failed.sink.written = ended.sink.written ∧ failed.table = ended.table ∧
    (Leaves (lines whole) → failed.result = .ok ()) ∧
    (¬Leaves (lines whole) → failed.result = .error .readFailed) ∧
    ∀ line, input = whole ++ line → line ≠ [] → ¬Leaves (lines whole) →
      let full := run console table input .endOfInput none
      let reply := (Statement.ofBytes line).execute failed.table
      full.result = .ok () ∧ full.table = reply.state ∧
        full.sink.written.toList = failed.sink.written.toList ++
          (Text.Utf8.encode reply.answer.chars ++
            promptBehind console.prompt reply.answer.control) := by
  intro whole failed ended
  have waits := prompted_start console table
  have sameLines : lines whole = (cut input).complete := lines_wholeLines input
  obtain ⟨last, last_eq⟩ : ∃ last, last =
      (lines whole).foldl takeLine (start console table none) := ⟨_, rfl⟩
  have failedLeft : failed.Left last .failure := by
    rw [last_eq, sameLines]
    exact left_run console table input .failure none
  have endedLeft : ended.Left last .endOfInput := by
    rw [last_eq]
    exact left_run console table whole .endOfInput none
  have prompted : ¬Leaves (lines whole) → last.Prompted console.prompt := by
    rw [last_eq]
    exact waits.foldl_takeLine
  refine ⟨wholeLines_longest input, ?_, ?_, ?_, ?_, ?_⟩
  · rw [failedLeft.sink_eq, endedLeft.sink_eq]
  · rw [failedLeft.table_eq, endedLeft.table_eq]
  · intro leaves
    have atEnd : last.phase = .done := by
      rw [last_eq]
      exact waits.foldl_takeLine_of_leaves leaves
    exact failedLeft.result_of_done atEnd
  · intro stays
    exact failedLeft.result_failure (prompted stays).reading
  · intro line parts begun stays full reply
    have fullLeft : full.Left (last.takeLine line) .endOfInput := by
      have left := left_run console table input .endOfInput none
      rw [taken, lines_of_unfinished parts begun, ← sameLines, List.foldl_append, ← last_eq]
        at left
      exact left
    have answered := (prompted stays).answered line
    have sameReply : last.reply line = reply := by
      rw [Session.reply, ← failedLeft.table_eq]
    have result : full.result = .ok () := answered.result_endOfInput fullLeft
    rw [fullLeft.table_eq, fullLeft.sink_eq, failedLeft.sink_eq, answered.table_eq,
      answered.written_eq, sameReply, (prompted stays).prompt_eq]
    exact ⟨result, rfl, rfl⟩

/-- The unfinished line of an input that fails is dropped, and the same bytes are carried out at
the end of an input in good order. -/
theorem run_failure_insert :
    let input := Text.Utf8.encode "select\ninsert 1 a b".toList
    let line := Text.Utf8.encode "insert 1 a b".toList
    input = wholeLines input ++ line ∧ line ≠ [] ∧ ¬Leaves (lines (wholeLines input)) ∧
      let failed := run { prompt := "> " } (.empty 1) input .failure none
      let full := run { prompt := "> " } (.empty 1) input .endOfInput none
      failed.result = .error .readFailed ∧
        full.table = ((Statement.ofBytes line).execute failed.table).state := by
  intro input line
  have parts : input = wholeLines input ++ line := by decide
  have begun : line ≠ [] := by decide
  have stays : ¬Leaves (lines (wholeLines input)) := by unfold Leaves; decide
  obtain ⟨-, -, -, -, fails, full⟩ := run_failure { prompt := "> " } (.empty 1) input
  obtain ⟨-, table, -⟩ := full line parts begun stays
  exact ⟨parts, begun, stays, fails stays, table⟩

end RowStore.Session
