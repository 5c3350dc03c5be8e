import RowStore.Proofs.Session.Endings
import RowStore.Proofs.Session.Unlimited

/-!
# A sink with limited room

A session whose sink has limited room goes the way of the session whose sink takes everything,
up to the first write that does not fit. There it breaks off: it has written the front of what
the other session writes, and it has carried out those lines before which everything was
written.
-/

namespace RowStore.Session

/-- A session with a sink that takes everything, as it waits for a line, and the line. -/
structure Turn where
  /-- The session behind its prompt. -/
  session : Session
  /-- The line that it takes. -/
  line : List UInt8

/-- The lines that a session takes of those offered, each with the session before it. -/
def turns : Session → List (List UInt8) → List Turn
  | _, [] => []
  | session, line :: later =>
    match session.phase with
    | .reading => ⟨session, line⟩ :: turns (session.takeLine line) later
    | _ => []

/-- The lines of those turns before which no more bytes were written than there is room for. -/
def linesWithin (room : Nat) (turns : List Turn) : List (List UInt8) :=
  (turns.filter fun turn => turn.session.sink.written.size ≤ room).map Turn.line

/-- The table after carrying out lines in order. -/
def carryOut (table : Table) (lines : List (List UInt8)) : Table :=
  lines.foldl (fun table line => ((Statement.ofBytes line).execute table).state) table

/-- The session with room for so many bytes in all, those that it has written included. -/
def within (session : Session) (room : Nat) : Session :=
  { session with sink := ⟨session.sink.written, some (room - session.sink.written.size)⟩ }

/-- How a session with limited room stands beside the one whose sink takes everything. -/
inductive Limited (room : Nat) (full : Session) : Session → Prop where
  /-- All was written, and nothing but the room is different. -/
  | fits (bound : full.sink.written.size ≤ room) : Limited room full (full.within room)
  /-- A write did not fit. -/
  | refused {limited : Session} (past : room < full.sink.written.size)
      (broken : limited.phase = .broken .writeRefused)
      (front : limited.sink.written.toList = full.sink.written.toList.take room) :
      Limited room full limited

/-- Writing to limited room keeps the front that fits, and breaks the session off if that is
not all. -/
theorem emit_within (full : Session) (room : Nat) (bytes : List UInt8) :
    let left := room - full.sink.written.size
    (full.within room).emit bytes =
      { full with
        sink := ⟨full.sink.written ++ bytes.take left, some (left - bytes.length)⟩
        phase := if bytes.length ≤ left then full.phase else .broken .writeRefused } := by
  intro left
  by_cases whole : bytes.length ≤ left
  · simp [emit, within, Sink.write, left, whole]
  · simp [emit, within, Sink.write, left, whole]

/-- Writing fits into the room or breaks the session off. -/
theorem limited_emit {full : Session} (unlimited : full.sink.room = none) {room : Nat}
    (bound : full.sink.written.size ≤ room) (bytes : List UInt8) :
    Limited room (full.emit bytes) ((full.within room).emit bytes) := by
  have written : (full.emit bytes).sink.written = full.sink.written ++ bytes := by
    rw [emit_unlimited unlimited]
  have size : (full.emit bytes).sink.written.size = full.sink.written.size + bytes.length := by
    rw [written, ← Array.length_toList, Array.toList_appendList, List.length_append,
      Array.length_toList]
  by_cases fit : bytes.length ≤ room - full.sink.written.size
  · have same : (full.within room).emit bytes = (full.emit bytes).within room := by
      have left : room - full.sink.written.size - bytes.length =
          room - (full.emit bytes).sink.written.size := by omega
      rw [emit_within, if_pos fit, List.take_of_length_le fit, left, within, written,
        emit_unlimited unlimited]
    rw [same]
    exact .fits (by omega)
  · have front : (full.emit bytes).sink.written.toList.take room =
        full.sink.written.toList ++ bytes.take (room - full.sink.written.size) := by
      have before : full.sink.written.toList.length ≤ room := by simpa using bound
      rw [written, Array.toList_appendList, List.take_append, List.take_of_length_le before,
        Array.length_toList]
    refine .refused (by omega) ?_ ?_
    · rw [emit_within, if_neg fit]
    · rw [front, emit_within, Array.toList_appendList]

/-- What is written later changes nothing for a session that broke off. -/
theorem Limited.refused_append {room : Nat} {full later limited : Session}
    (past : room < full.sink.written.size) (broken : limited.phase = .broken .writeRefused)
    (front : limited.sink.written.toList = full.sink.written.toList.take room)
    {more : List UInt8} (grown : later.sink.written.toList = full.sink.written.toList ++ more) :
    Limited room later limited := by
  have length := congrArg List.length grown
  have before : room ≤ full.sink.written.toList.length := by
    rw [Array.length_toList]
    omega
  rw [List.length_append, Array.length_toList, Array.length_toList] at length
  refine .refused (by omega) broken ?_
  rw [grown, List.take_append_of_le_length before, front]

/-- Prompting fits into the room or breaks the session off. -/
theorem limited_ask {full : Session} (reading : full.phase = .reading)
    (unlimited : full.sink.room = none) {room : Nat} (bound : full.sink.written.size ≤ room) :
    Limited room full.ask (full.within room).ask := by
  have wrote := limited_emit unlimited bound (Text.Utf8.encode full.console.prompt.toList)
  have fullReading : (full.emit (Text.Utf8.encode full.console.prompt.toList)).phase =
      .reading := by rwa [emit_unlimited unlimited]
  have asked := (ask_cases full).1 fullReading
  obtain ⟨written, refused⟩ := ask_cases (full.within room)
  have samePrompt : (full.within room).console.prompt = full.console.prompt := rfl
  rw [samePrompt] at written refused
  generalize (full.within room).emit (Text.Utf8.encode full.console.prompt.toList) = emitted
    at wrote written refused
  rw [asked]
  cases wrote with
  | fits bound =>
    rw [written fullReading]
    exact .fits bound
  | refused past broken front =>
    rw [refused (by rw [broken]; decide)]
    exact .refused past broken front

/-- What follows an answer fits into the room or breaks the session off. -/
theorem Limited.settle {room : Nat} {full limited : Session}
    (stands : Limited room full limited) (reading : full.phase = .reading)
    (unlimited : full.sink.room = none) (control : Control) :
    Limited room (full.settle control) (limited.settle control) := by
  cases stands with
  | fits bound =>
    have waits : (full.within room).phase = .reading := reading
    cases control with
    | proceed =>
      rw [settle_proceed reading, settle_proceed waits]
      exact limited_ask reading unlimited bound
    | stop =>
      rw [settle_stop reading, settle_stop waits]
      have ended : ({ full with phase := .done } : Session).sink.written.size ≤ room := bound
      exact .fits ended
  | refused past broken front =>
    have stays : limited.settle control = limited := by
      simp only [Session.settle, broken]
    rw [stays]
    cases control with
    | proceed =>
      rw [settle_proceed reading, ask_unlimited reading unlimited]
      exact .refused_append past broken front Array.toList_appendList
    | stop =>
      rw [settle_stop reading]
      exact .refused past broken front

/-- A line goes the same way in limited room, or the session breaks off over its answer or the
prompt behind it. -/
theorem limited_takeLine {full : Session} (reading : full.phase = .reading)
    (unlimited : full.sink.room = none) {room : Nat} (bound : full.sink.written.size ≤ room)
    (line : List UInt8) :
    Limited room (full.takeLine line) ((full.within room).takeLine line) := by
  have waits : (full.within room).phase = .reading := reading
  have accepted : (full.carry line).sink.room = none := unlimited
  have carried : (full.carry line).sink.written.size ≤ room := bound
  have wrote := limited_emit accepted carried
    (Text.Utf8.encode (full.reply line).answer.chars)
  rw [takeLine_eq reading, takeLine_eq waits]
  refine wrote.settle ?_ ?_ _
  · rw [emit_unlimited accepted]
    exact reading
  · rw [emit_unlimited accepted]

/-- A session that does not wait takes no turn. -/
theorem turns_of_stopped {session : Session} (stopped : session.phase ≠ .reading)
    (lines : List (List UInt8)) : turns session lines = [] := by
  cases lines with
  | nil => rfl
  | cons line later =>
    rw [turns]
    split
    · next reading => exact absurd reading stopped
    · rfl

/-- Lines in limited room go the same way up to the first write that does not fit, and the lines
carried out are those before which everything was written. -/
theorem Limited.foldl_takeLine {room : Nat} {full limited : Session}
    (stands : Limited room full limited) (unlimited : full.sink.room = none)
    (lines : List (List UInt8)) :
    Limited room (lines.foldl takeLine full) (lines.foldl takeLine limited) ∧
      (lines.foldl takeLine limited).table =
        carryOut limited.table (linesWithin room (turns full lines)) := by
  -- The session that takes everything decides the turns, the limited one follows or stays.
  induction lines generalizing full limited with
  | nil => exact ⟨stands, rfl⟩
  | cons line later ih =>
    rw [List.foldl_cons, List.foldl_cons]
    by_cases reading : full.phase = .reading
    · have answered := answered_takeLine reading unlimited line
      have taken : turns full (line :: later) =
          ⟨full, line⟩ :: turns (full.takeLine line) later := by rw [turns, reading]
      rw [taken]
      cases stands with
      | fits bound =>
        have waits : (full.within room).phase = .reading := reading
        have kept : linesWithin room (⟨full, line⟩ :: turns (full.takeLine line) later) =
            line :: linesWithin room (turns (full.takeLine line) later) := by
          simp [linesWithin, bound]
        obtain ⟨ends, table⟩ := ih (limited_takeLine reading unlimited bound line)
          answered.unlimited
        refine ⟨ends, ?_⟩
        rw [table, kept, table_takeLine waits]
        rfl
      | refused past broken front =>
        have stays : limited.takeLine line = limited :=
          takeLine_of_stopped (by rw [broken]; decide) line
        have dropped : linesWithin room (⟨full, line⟩ :: turns (full.takeLine line) later) =
            linesWithin room (turns (full.takeLine line) later) := by
          simp [linesWithin, Nat.not_le.2 past]
        rw [stays, dropped]
        exact ih (.refused_append past broken front answered.written_eq) answered.unlimited
    · have stays : full.takeLine line = full := takeLine_of_stopped reading line
      have limitedStays : limited.takeLine line = limited := by
        cases stands with
        | fits bound =>
          have waitsNot : (full.within room).phase ≠ .reading := reading
          exact takeLine_of_stopped waitsNot line
        | refused past broken front =>
          exact takeLine_of_stopped (by rw [broken]; decide) line
      obtain ⟨ends, table⟩ := ih stands unlimited
      rw [turns_of_stopped reading] at table
      rw [stays, limitedStays, turns_of_stopped reading]
      exact ⟨ends, table⟩

/-- Once more was written than there is room for, no line is among those before which the room
was kept. -/
theorem linesWithin_of_past {room : Nat} {full : Session} (unlimited : full.sink.room = none)
    (past : room < full.sink.written.size) (lines : List (List UInt8)) :
    linesWithin room (turns full lines) = [] := by
  induction lines generalizing full with
  | nil => rfl
  | cons line later ih =>
    by_cases reading : full.phase = .reading
    · have answered := answered_takeLine reading unlimited line
      have grown := congrArg List.length answered.written_eq
      rw [List.length_append, Array.length_toList, Array.length_toList] at grown
      have rest := ih answered.unlimited (by omega)
      have dropped : ¬full.sink.written.size ≤ room := Nat.not_le.2 past
      rw [turns, reading]
      simpa [linesWithin, dropped] using rest
    · rw [turns_of_stopped reading]
      rfl

/-- The lines before which the room was kept are the first ones. -/
theorem linesWithin_isFront {room : Nat} {full : Session} (unlimited : full.sink.room = none)
    (lines : List (List UInt8)) : linesWithin room (turns full lines) <+: lines := by
  induction lines generalizing full with
  | nil => exact List.prefix_rfl
  | cons line later ih =>
    by_cases reading : full.phase = .reading
    · by_cases past : room < full.sink.written.size
      · rw [linesWithin_of_past unlimited past]
        exact List.nil_prefix
      · have kept : full.sink.written.size ≤ room := Nat.le_of_not_lt past
        have rest := ih (answered_takeLine reading unlimited line).unlimited
        rw [turns, reading]
        simpa [linesWithin, kept] using rest
    · rw [turns_of_stopped reading]
      exact List.nil_prefix

/-- A new session in limited room stands beside the one whose sink takes everything. -/
theorem limited_start (console : Console) (table : Table) (room : Nat) :
    Limited room (start console table none) (start console table (some room)) := by
  let session : Session :=
    { console, table, sink := ⟨#[], none⟩, log := #[.sessionStarted table.capacity],
      phase := .reading }
  have bound : session.sink.written.size ≤ room := Nat.zero_le room
  have asked : Limited room session.ask (session.within room).ask := limited_ask rfl rfl bound
  exact asked

/-- Sessions that stand beside one another behind their last line come out alike when all was
written, and otherwise the limited one is reported for the write. -/
theorem Limited.left {room : Nat} {full limited last limitedLast : Session} {ending : Ending}
    (stands : Limited room last limitedLast) (fullLeft : full.Left last ending)
    (limitedLeft : limited.Left limitedLast ending) :
    limited.sink.written.toList = full.sink.written.toList.take room ∧
    (full.sink.written.size ≤ room → limited.result = full.result ∧ limited.table = full.table) ∧
    (room < full.sink.written.size → limited.result = .error .writeRefused) := by
  rw [fullLeft.sink_eq, limitedLeft.sink_eq]
  cases stands with
  | fits bound =>
    have whole : last.sink.written.toList.length ≤ room := by simpa using bound
    have phase : limited.phase = full.phase := by
      rw [fullLeft.phase_eq, limitedLeft.phase_eq]
      rfl
    refine ⟨?_, fun _ => ⟨?_, ?_⟩, fun past => absurd bound (Nat.not_le.2 past)⟩
    · rw [List.take_of_length_le whole]
      rfl
    · rw [result, result, phase]
    · rw [fullLeft.table_eq, limitedLeft.table_eq]
      rfl
  | refused past broken front =>
    refine ⟨front, fun bound => absurd bound (Nat.not_le.2 past), fun _ => ?_⟩
    have stopped : limited.phase = .broken .writeRefused := by
      rw [limitedLeft.phase_eq, broken, if_neg (by decide)]
    rw [result, stopped]

/-- A session whose sink has room for so many bytes writes exactly the first of the bytes that
it writes where the sink takes everything. If these are all, it comes out alike and leaves the
same table. If not, it breaks off over the write. In either case it has carried out, once and in
order, exactly those lines of the unlimited session before which, prompts included, no more
bytes were written than there is room for: the first lines, and none after them. -/
theorem run_room (console : Console) (table : Table) (input : List UInt8) (ending : Ending)
    (room : Nat) :
    let free := run console table input ending none
    let full := free.sink.written.toList
    let limited := run console table input ending (some room)
    limited.sink.written.toList = full.take room ∧
    (full.length ≤ room → limited.result = free.result ∧ limited.table = free.table) ∧
    (room < full.length → limited.result = .error .writeRefused) ∧
    let carried := linesWithin room (turns (start console table none) (taken input ending))
    limited.table = carryOut table carried ∧ carried <+: taken input ending := by
  intro free full limited
  have begins := limited_start console table room
  have accepted : (start console table none).sink.room = none :=
    (prompted_start console table).unlimited
  have unchanged : (start console table (some room)).table = table := (keeps_ask _).1
  obtain ⟨ends, carried⟩ := begins.foldl_takeLine accepted (taken input ending)
  have limitedLeft := left_run console table input ending (some room)
  obtain ⟨front, fits, refused⟩ := ends.left (left_run console table input ending none) limitedLeft
  have size : full.length = free.sink.written.size := Array.length_toList
  refine ⟨front, ?_, ?_, ?_, linesWithin_isFront accepted _⟩
  · rwa [size]
  · rwa [size]
  · rw [unchanged, ← limitedLeft.table_eq] at carried
    exact carried

end RowStore.Session
