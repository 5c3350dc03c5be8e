import RowStore.Proofs.Session.Sanitised
import RowStore.Proofs.Session.Turns
import RowStore.Proofs.Statement.Framing

/-!
# Output as lines

A line that a session takes has a line feed at most at its end, and the texts that an answer
repeats have none. So nothing that is put in, now or in an earlier session, can break an answer
into other lines than its own, and the line feeds of the output count the lines of the answers.
-/

namespace RowStore

/-- How many lines the answer to a statement has, when so many rows are stored. -/
def Statement.lineCount (rows : Nat) : Statement → Nat
  | .insert _ => 1
  | .select => rows + 1
  | .exit => 0
  | .unrecognized _ => 1
  | .malformed _ => 1

/-- The answer to a statement has as many lines as its kind and the rows stored say. -/
theorem Table.Holds.length_lines_execute {table : Table} {rows : List Row}
    (holds : table.Holds rows) (statement : Statement) :
    (statement.execute table).answer.lines.length = statement.lineCount table.size := by
  cases statement with
  | insert row =>
    cases answered : (table.insert row).answer with
    | ok => rw [Statement.answer_execute_insert answered]; rfl
    | error error => rw [Statement.answer_execute_insert_refused answered]; rfl
  | select =>
    have yielded : table.scan.drain.answer = rows := holds.rows_eq
    simp [Statement.execute, Statement.lineCount, yielded, holds.size_eq]
  | exit => rfl
  | unrecognized text => rfl
  | malformed reason => rfl

namespace Session

open Text.Utf8

/-- The table behind sessions in order, each with a console and on what a sitting gives. -/
def tableBehind (table : Table) (sittings : List (Console × Sitting)) : Table :=
  sittings.foldl (fun table (console, sitting) => (sit console table sitting).table) table

/-- Sessions in order keep the table to rows that lines can store. -/
theorem filled_tableBehind {table : Table} {capacity : Nat} {rows : List Row}
    (filled : table.Filled capacity rows) (sittings : List (Console × Sitting)) :
    ∃ more, (tableBehind table sittings).Filled capacity more := by
  induction sittings generalizing table rows with
  | nil => exact ⟨rows, filled⟩
  | cons first later ih =>
    obtain ⟨console, sitting⟩ := first
    obtain ⟨more, next⟩ :=
      filled_run filled console sitting.input sitting.ending sitting.room
    exact ih next

/-- The lines that a session takes are read as texts of one line. -/
theorem singleLine_of_taken {input line : List UInt8} {ending : Ending}
    (member : line ∈ taken input ending) : Text.SingleLine (decodeLossy line) := by
  obtain ⟨-, ended, clean⟩ := cut_exact input
  have complete : ∀ line ∈ (cut input).complete, Text.SingleLine (decodeLossy line) := by
    intro line member
    obtain ⟨text, rfl, plain⟩ := ended line member
    have apart : decodeLossy (text ++ [lineFeed]) = decodeLossy text ++ ['\n'] :=
      decodeLossy_append_cons encodeChar_lineFeed text []
    rw [Text.SingleLine, apart, List.dropLast_concat]
    exact mt (mem_decodeLossy_iff encodeChar_lineFeed).1 plain
  cases ending with
  | failure => exact complete line member
  | endOfInput =>
    rw [taken, lines] at member
    generalize cut input = parts at complete clean member
    obtain ⟨whole, unfinished⟩ := parts
    cases unfinished with
    | nil => exact complete line member
    | cons byte rest =>
      rcases List.mem_append.1 member with ends | last
      · exact complete line ends
      · rw [List.mem_singleton.1 last]
        intro inner
        have within := List.mem_of_mem_dropLast inner
        exact clean ((mem_decodeLossy_iff encodeChar_lineFeed).1 within)

section

variable {session : Session} {capacity : Nat} {rows : List Row} {input : List UInt8}
  {ending : Ending} {turn : Turn}

/-- Every answer to a line of the input is framed. -/
theorem framed_turn (filled : session.table.Filled capacity rows)
    (member : turn ∈ turns session (taken input ending)) : turn.answer.Framed := by
  obtain ⟨among, -, more, stored⟩ := filled_turns filled member
  apply stored.framed_execute
  rw [String.toList_ofList]
  exact singleLine_of_taken among

/-- A turn writes as many line feeds as its answer has lines, when the prompt has none. -/
theorem count_output (filled : session.table.Filled capacity rows)
    (member : turn ∈ turns session (taken input ending))
    (plain : '\n' ∉ turn.session.console.prompt.toList) :
    turn.output.count lineFeed =
      (Statement.ofBytes turn.line).lineCount turn.session.table.size := by
  obtain ⟨-, -, more, stored⟩ := filled_turns filled member
  have prompt : (promptBehind turn.session.console.prompt turn.answer.control).count lineFeed
      = 0 := by
    cases turn.answer.control with
    | proceed => rw [promptBehind, count_encode encodeChar_lineFeed, List.count_eq_zero.2 plain]
    | stop => rfl
  calc
    turn.output.count lineFeed = (encode turn.answer.chars).count lineFeed := by
      rw [Turn.output, List.count_append, prompt, Nat.add_zero]
    _ = turn.answer.lines.length := by
      rw [count_encode encodeChar_lineFeed, (framed_turn filled member).count_chars]
    _ = (Statement.ofBytes turn.line).lineCount turn.session.table.size :=
      stored.holds.length_lines_execute _

end

/-- In each turn the session has the prompt that it began with. -/
theorem prompt_of_mem_turns {session : Session} {lines : List (List UInt8)} {turn : Turn}
    (member : turn ∈ turns session lines) :
    turn.session.console.prompt = session.console.prompt := by
  refine (of_mem_turns (motive := (·.console.prompt = session.console.prompt)) ?_ rfl member).2.2
  intro earlier line same
  rw [prompt_takeLine, same]

/-- Whatever sessions came before on a table that was empty, and whatever bytes a session is
given, no line of its answers holds a line feed. So where the prompt has none either and no write
is refused, the session writes exactly as many line feeds as its answers have lines: for every
line carried out one, for one that shows the table one and another for each row stored at that
moment, and for the command to leave none. -/
theorem responses_framed (maxPages : Nat) (earlier : List (Console × Sitting))
    (console : Console) (sitting : Sitting) :
    let table := tableBehind (.empty maxPages) earlier
    let session := sit console table sitting
    let executed := turns (start console table sitting.room)
      (taken sitting.input sitting.ending)
    (∀ turn ∈ executed, ∀ line ∈ turn.answer.lines, '\n' ∉ line.toList) ∧
    ('\n' ∉ console.prompt.toList → session.result ≠ .error .writeRefused →
      session.sink.written.toList.count lineFeed = (executed.map fun turn =>
        (Statement.ofBytes turn.line).lineCount turn.session.table.size).sum) := by
  intro table session executed
  obtain ⟨rows, stored⟩ := filled_tableBehind (Table.filled_empty maxPages) earlier
  obtain ⟨sameTable, samePrompt⟩ :
      (start console table sitting.room).table = table ∧
        (start console table sitting.room).console.prompt = console.prompt := keeps_ask _
  have filled : (start console table sitting.room).table.Filled (Table.empty maxPages).capacity
      rows := by rwa [sameTable]
  refine ⟨fun turn member => framed_turn filled member, ?_⟩
  intro plain whole
  have first : (encode console.prompt.toList).count lineFeed = 0 := by
    rw [count_encode encodeChar_lineFeed, List.count_eq_zero.2 plain]
  have written : session.sink.written.toList =
      encode console.prompt.toList ++ executed.flatMap Turn.output := written_run whole
  have counts : executed.map (List.count lineFeed ∘ Turn.output) = executed.map fun turn =>
      (Statement.ofBytes turn.line).lineCount turn.session.table.size := by
    apply List.map_congr_left
    intro turn member
    rw [Function.comp_apply]
    have clean : '\n' ∉ turn.session.console.prompt.toList := by
      rwa [prompt_of_mem_turns member, samePrompt]
    exact count_output filled member clean
  rw [written, List.count_append, first, Nat.zero_add, List.count_flatMap, counts]

/-- A stored row with the text of an answer in it, a line broken by characters that end lines
elsewhere, and an id that is no number. -/
theorem responses_framed_odd_texts :
    let earlier : List (Console × Sitting) :=
      [({ prompt := "\n" }, ⟨encode "insert 1 Executed. a)(b".toList, .endOfInput, none⟩)]
    let console : Console := { prompt := "> " }
    let input := encode "select\nwhat\r\x0b?\r\ninsert one\u2029 b c\n.exit\nselect\n".toList
    let sitting : Sitting := ⟨input, .endOfInput, none⟩
    let table := tableBehind (.empty 1) earlier
    let session := sit console table sitting
    let executed := turns (start console table sitting.room)
      (taken sitting.input sitting.ending)
    '\n' ∉ console.prompt.toList ∧ session.result ≠ .error .writeRefused ∧
      (executed.map fun turn =>
        (Statement.ofBytes turn.line).lineCount turn.session.table.size) = [2, 1, 1, 0] ∧
      session.sink.written.toList.count lineFeed = 4 := by
  intro earlier console input sitting table session executed
  have plain : '\n' ∉ console.prompt.toList := by decide
  have whole : session.result ≠ .error .writeRefused := by
    have ended : session.result = .ok () := result_run_endOfInput console table input
    rw [ended]
    decide
  obtain ⟨-, counted⟩ := responses_framed 1 earlier console sitting
  have counts : (executed.map fun turn =>
      (Statement.ofBytes turn.line).lineCount turn.session.table.size) = [2, 1, 1, 0] := by
    decide +kernel +revert
  refine ⟨plain, whole, counts, ?_⟩
  rw [counted plain whole, counts]
  rfl

end Session

end RowStore
