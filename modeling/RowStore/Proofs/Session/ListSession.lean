import RowStore.Proofs.Session.Unlimited
import RowStore.Proofs.Table.Holds

/-!
# A session as a list of rows

What a session shows can be said without records, pages or single bytes: a list session keeps
the stored rows in a plain list and answers whole lines. A session on a new table, with input
that comes to its end and a sink that takes everything, writes exactly what the list session
shows and leaves exactly its rows.
-/

namespace RowStore

namespace ListSession

/-- The lines that answer a statement, and the list of rows afterwards; the command to leave
has no answer. -/
def answer (capacity : Nat) (rows : List Row) : Statement → Option (List String × List Row)
  | .insert row =>
    if rows.length < capacity then some (["Executed."], rows ++ [row])
    else some (["Error: Table full."], rows)
  | .select => some (rows.map Row.display ++ ["Executed."], rows)
  | .unrecognized text => some (["Unrecognized command '" ++ text ++ "'."], rows)
  | .malformed reason => some (["Syntax error: " ++ reason.message ++ "."], rows)
  | .exit => none

/-- Lines of text, each with its end. -/
def shown (answered : List String) : String := .join (answered.map (· ++ "\n"))

/-- What remains of a list session. -/
structure Transcript where
  /-- The text that it showed. -/
  text : String
  /-- The list of rows at its end. -/
  rows : List Row

/-- A list session on lines of bytes: it shows the prompt before each line and before the end of
the input. -/
def run (prompt : String) (capacity : Nat) : List Row → List (List UInt8) → Transcript
  | rows, [] => ⟨prompt, rows⟩
  | rows, line :: later =>
    match answer capacity rows (.ofBytes line) with
    | none => ⟨prompt, rows⟩
    | some (answered, changed) =>
      let rest := run prompt capacity changed later
      ⟨prompt ++ shown answered ++ rest.text, rest.rows⟩

end ListSession

/-- The characters of an answer are its lines with their ends. -/
theorem Outcome.chars_eq (outcome : Outcome) :
    outcome.chars = (ListSession.shown outcome.lines).toList := by
  rw [chars, ListSession.shown, String.toList_join, List.flatMap_map]
  simp

/-- A table that holds rows answers a statement as the list of the rows does, and holds the list
afterwards. -/
theorem Table.Holds.execute {table : Table} {rows : List Row} (holds : table.Holds rows)
    {statement : Statement} (fits : ∀ row, statement = .insert row → row.check = .ok ()) :
    let reply := statement.execute table
    match ListSession.answer table.capacity rows statement with
    | none => reply.answer = ⟨[], .stop⟩ ∧ reply.state = table
    | some (answered, changed) =>
      reply.answer = ⟨answered, .proceed⟩ ∧ reply.state.Holds changed ∧
        reply.state.capacity = table.capacity := by
  cases statement with
  | insert row =>
    obtain ⟨full, refused, kept⟩ | ⟨error, -, unfit, -, -⟩ |
        ⟨room, -, stored, extended, capacity⟩ := holds.insert_cases row
    · have filled : ¬rows.length < table.capacity := by omega
      simp only [Statement.execute, ListSession.answer, if_neg filled, refused, kept]
      exact ⟨rfl, holds, trivial⟩
    · rw [fits row rfl] at unfit
      cases unfit
    · simp only [Statement.execute, ListSession.answer, if_pos room, stored]
      exact ⟨rfl, extended, capacity⟩
  | select =>
    have yielded : table.scan.drain.answer = rows := holds.rows_eq
    simp only [Statement.execute, ListSession.answer, yielded]
    exact ⟨rfl, holds, trivial⟩
  | exit => exact ⟨rfl, rfl⟩
  | unrecognized text => exact ⟨rfl, holds, rfl⟩
  | malformed reason => exact ⟨rfl, holds, rfl⟩

namespace Session

/-- A session that has shown some text, waits for input behind a prompt, and whose table holds
the rows of a list session. -/
structure Awaits (session : Session) (prompt : String) (capacity : Nat) (rows : List Row)
    (text : String) : Prop where
  /-- It waits for input. -/
  reading : session.phase = .reading
  /-- The prompt is the one that was shown. -/
  prompt_eq : session.console.prompt = prompt
  /-- The sink takes everything. -/
  unlimited : session.sink.room = none
  /-- The text and then the prompt were written. -/
  written_eq : session.sink.written.toList = Text.Utf8.encode (text ++ prompt).toList
  /-- The table has room for as many rows. -/
  capacity_eq : session.table.capacity = capacity
  /-- The table holds the rows. -/
  holds : session.table.Holds rows

/-- A session that came to its end in good order, with the text that it has shown and the rows
that its table holds. -/
structure Over (session : Session) (rows : List Row) (text : String) : Prop where
  /-- It came to its end. -/
  done : session.phase = .done
  /-- The text was written. -/
  written_eq : session.sink.written.toList = Text.Utf8.encode text.toList
  /-- The table holds the rows. -/
  holds : session.table.Holds rows

/-- A new session on a new table waits behind its first prompt. -/
theorem awaits_start (console : Console) (maxPages : Nat) :
    (start console (.empty maxPages) none).Awaits console.prompt
      (min (14 * maxPages) (UInt64.size - 1)) [] "" := by
  rw [start, ask_unlimited rfl rfl]
  constructor
  case reading => rfl
  case prompt_eq => rfl
  case unlimited => rfl
  case written_eq => simp
  case capacity_eq => exact Table.capacity_eq (Table.empty maxPages)
  case holds => exact Table.holds_empty maxPages

variable {session : Session} {prompt text : String} {capacity : Nat} {rows : List Row}

/-- A line takes a waiting session to where the list session goes. -/
theorem Awaits.takeLine (awaits : session.Awaits prompt capacity rows text)
    (line : List UInt8) :
    match ListSession.answer capacity rows (.ofBytes line) with
    | none => (session.takeLine line).Over rows (text ++ prompt)
    | some (answered, changed) =>
      (session.takeLine line).Awaits prompt capacity changed
        (text ++ prompt ++ ListSession.shown answered) := by
  obtain ⟨reading, rfl, unlimited, written, rfl, holds⟩ := awaits
  obtain ⟨changedTo, samePrompt, next⟩ := takeLine_unlimited reading unlimited line
  have fits : ∀ row, Statement.ofBytes line = .insert row → row.check = .ok () :=
    fun row => Statement.check_of_parse
  have agrees := holds.execute fits
  simp only [reply] at changedTo next
  split
  · next left =>
    simp only [left] at agrees
    obtain ⟨answered, kept⟩ := agrees
    rw [answered] at next
    constructor
    case done => exact next.1
    case written_eq => simp [next.2, written, Outcome.chars, Text.Utf8.encode]
    case holds => rwa [changedTo, kept]
  · next answered changed stayed =>
    simp only [stayed] at agrees
    obtain ⟨answer, extended, capacity⟩ := agrees
    rw [answer] at next
    constructor
    case reading => exact next.1
    case prompt_eq => exact samePrompt
    case unlimited => rw [next.2]
    case written_eq =>
      rw [next.2, Outcome.chars_eq]
      simp only [Array.toList_appendList, String.toList_append, Text.Utf8.encode_append, written]
    case capacity_eq => rw [changedTo, capacity]
    case holds => rwa [changedTo]

/-- The end of the input takes a waiting session to its end, behind the last prompt. -/
theorem Awaits.endOfInput (awaits : session.Awaits prompt capacity rows text) :
    session.endOfInput.Over rows (text ++ prompt) := by
  rw [Session.endOfInput, awaits.reading]
  exact ⟨rfl, awaits.written_eq, awaits.holds⟩

/-- A session that is over takes no line. -/
theorem Over.foldl_takeLine (ended : session.Over rows text) (later : List (List UInt8)) :
    later.foldl Session.takeLine session = session := by
  have stopped : session.phase ≠ .reading := by rw [ended.done]; decide
  exact foldl_takeLine_of_stopped stopped later

/-- The report of the end leaves a session over. -/
theorem Over.close (ended : session.Over rows text) : session.close.Over rows text := by
  rw [Session.close, ended.done]
  exact ⟨rfl, ended.written_eq, ended.holds⟩

/-- Lines that come to their end take a waiting session to where the list session ends. -/
theorem Awaits.foldl_takeLine (awaits : session.Awaits prompt capacity rows text)
    (later : List (List UInt8)) :
    (later.foldl Session.takeLine session).endOfInput.Over
      (ListSession.run prompt capacity rows later).rows
      (text ++ (ListSession.run prompt capacity rows later).text) := by
  induction later generalizing session rows text with
  | nil => exact awaits.endOfInput
  | cons line later ih =>
    have step := awaits.takeLine line
    rw [List.foldl_cons, ListSession.run]
    split
    · next left =>
      simp only [left] at step
      rw [step.foldl_takeLine, Session.endOfInput, step.done]
      exact step
    · next answered changed stayed =>
      simp only [stayed] at step
      have rest := ih step
      simp only [String.append_assoc] at rest ⊢
      exact rest

/-- A session on a new table comes to its end in good order when its input does and its sink
takes everything. It writes exactly the text that the list session shows for the lines of the
input, and its table has exactly the rows of the list. -/
theorem run_eq_listSession (console : Console) (maxPages : Nat) (input : List UInt8) :
    let session := run console (.empty maxPages) input .endOfInput none
    let capacity := min (14 * maxPages) (UInt64.size - 1)
    let reference := ListSession.run console.prompt capacity [] (lines input)
    session.phase = .done ∧ session.result = .ok () ∧
      session.sink.written.toList = reference.text.toByteArray.data.toList ∧
      session.table.rows = reference.rows := by
  intro session capacity reference
  have ended : session.Over reference.rows reference.text := by
    have reached := (awaits_start console maxPages).foldl_takeLine (lines input)
    rw [String.empty_append] at reached
    have closed := reached.close
    rwa [← run_endOfInput] at closed
  have result : session.result = .ok () := by rw [Session.result, ended.done]
  have written := ended.written_eq
  rw [Text.Utf8.encode_toList] at written
  exact ⟨ended.done, result, written, ended.holds.rows_eq⟩

end Session

end RowStore
