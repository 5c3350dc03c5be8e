import RowStore.Proofs.Session.Endings

/-!
# What a session sees of its input

The bytes of a line reach nothing in a session but its line buffer; all else is decided by the
statement that the line is. So sessions on inputs of the same statements differ at most in the
bytes that their consoles still hold.
-/

namespace RowStore.Session

/-- The session without the bytes that its console holds. -/
def unbuffered (session : Session) : Session :=
  { session with console := { session.console with buffer := #[] } }

/-- Writing leaves the bytes held alone. -/
theorem unbuffered_emit (session : Session) (bytes : List UInt8) :
    (session.emit bytes).unbuffered = session.unbuffered.emit bytes :=
  rfl

/-- Collecting changes nothing else than the bytes held. -/
theorem unbuffered_collect (session : Session) (pending : List UInt8) :
    (session.collect pending).unbuffered = session.unbuffered := by
  rw [collect]
  split
  · rfl
  · rfl

/-- A prompt does not depend on the bytes held. -/
theorem unbuffered_ask (session : Session) :
    session.ask.unbuffered = session.unbuffered.ask.unbuffered := by
  obtain ⟨written, refused⟩ := ask_cases session
  obtain ⟨writtenAnew, refusedAnew⟩ := ask_cases session.unbuffered
  by_cases reading :
      (session.emit (Text.Utf8.encode session.console.prompt.toList)).phase = .reading
  · rw [written reading, writtenAnew reading]
    rfl
  · rw [refused reading, refusedAnew reading]
    rfl

/-- What follows an answer does not depend on the bytes held. -/
theorem unbuffered_settle (session : Session) (control : Control) :
    (session.settle control).unbuffered = (session.unbuffered.settle control).unbuffered := by
  cases stands : session.phase with
  | reading =>
    have also : session.unbuffered.phase = .reading := stands
    cases control with
    | proceed => rw [settle_proceed stands, settle_proceed also, unbuffered_ask]
    | stop => rw [settle_stop stands, settle_stop also, unbuffered, unbuffered, unbuffered]
  | done => simp [settle, unbuffered, stands]
  | broken fault => simp [settle, unbuffered, stands]

/-- The end of the input does not depend on the bytes held. -/
theorem unbuffered_endOfInput (session : Session) :
    session.endOfInput.unbuffered = session.unbuffered.endOfInput := by
  cases stands : session.phase <;> simp [endOfInput, unbuffered, stands]

/-- A failure of the input does not depend on the bytes held. -/
theorem unbuffered_failure (session : Session) :
    (session.finish .failure).unbuffered = session.unbuffered.finish .failure := by
  cases stands : session.phase <;> simp [finish, unbuffered, stands]

/-- The report of the end does not depend on the bytes held. -/
theorem unbuffered_close (session : Session) :
    session.close.unbuffered = session.unbuffered.close := by
  cases stands : session.phase <;> simp [close, unbuffered, stands]

/-- A line changes a session as any line of the same statement does, but for the bytes held. -/
theorem unbuffered_takeLine (session : Session) {line other : List UInt8}
    (same : Statement.ofBytes line = Statement.ofBytes other) :
    (session.takeLine line).unbuffered = (session.unbuffered.takeLine other).unbuffered := by
  by_cases reading : session.phase = .reading
  · have also : session.unbuffered.phase = .reading := reading
    have replied : session.reply line = session.unbuffered.reply other := by
      rw [reply, reply, same]
      rfl
    have carried : (session.carry line).unbuffered =
        (session.unbuffered.carry other).unbuffered := by
      rw [carry, carry, replied, same]
      rfl
    rw [takeLine_eq reading, takeLine_eq also, replied, unbuffered_settle,
      unbuffered_settle (emit _ _), unbuffered_emit, unbuffered_emit, carried]
  · have also : session.unbuffered.phase ≠ .reading := reading
    rw [takeLine_of_stopped reading, takeLine_of_stopped also]
    rfl

/-- Lines of the same statements change two sessions alike, but for the bytes held. -/
theorem unbuffered_foldl_takeLine {lines others : List (List UInt8)}
    (same : lines.map Statement.ofBytes = others.map Statement.ofBytes)
    {session other : Session} (alike : session.unbuffered = other.unbuffered) :
    (lines.foldl takeLine session).unbuffered = (others.foldl takeLine other).unbuffered := by
  induction lines generalizing others session other with
  | nil =>
    rw [List.map_nil, eq_comm, List.map_eq_nil_iff] at same
    rwa [same]
  | cons line rest ih =>
    obtain ⟨first, later, rfl, read, left⟩ := List.map_eq_cons_iff.1 same.symm
    have step : (session.takeLine line).unbuffered = (other.takeLine first).unbuffered := by
      rw [unbuffered_takeLine session read.symm, alike, ← unbuffered_takeLine other rfl]
    exact ih left.symm step

/-- New sessions with the same prompt are alike, but for the bytes held. -/
theorem unbuffered_start {console other : Console} (prompt : console.prompt = other.prompt)
    (table : Table) (room : Option Nat) :
    (start console table room).unbuffered = (start other table room).unbuffered := by
  obtain ⟨text, held⟩ := console
  obtain ⟨same, more⟩ := other
  obtain rfl : text = same := prompt
  rw [start, start, unbuffered_ask, unbuffered_ask ⟨⟨text, more⟩, _, _, _, _⟩]
  rfl

/-- Sessions with the same prompt on inputs whose lines are the same statements are alike, but for
the bytes held. -/
theorem unbuffered_run {console other : Console} (prompt : console.prompt = other.prompt)
    (table : Table) {input also : List UInt8} {ending : Ending}
    (same : (taken input ending).map Statement.ofBytes =
      (taken also ending).map Statement.ofBytes) (room : Option Nat) :
    (run console table input ending room).unbuffered =
      (run other table also ending room).unbuffered := by
  have last := unbuffered_foldl_takeLine same (unbuffered_start prompt table room)
  cases ending with
  | endOfInput =>
    rw [taken, taken] at last
    rw [run_endOfInput, run_endOfInput, unbuffered_close, unbuffered_endOfInput, last,
      unbuffered_close (endOfInput _), unbuffered_endOfInput]
  | failure =>
    rw [taken, taken] at last
    rw [run, run, foldl_feed (fresh_start console table room),
      foldl_feed (fresh_start other table room), unbuffered_close, unbuffered_failure,
      unbuffered_collect, last, unbuffered_close (finish _ _), unbuffered_failure,
      unbuffered_collect]

end RowStore.Session
