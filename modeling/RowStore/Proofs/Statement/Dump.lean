import RowStore.Proofs.Statement.Grammar
import RowStore.Proofs.Statement.Script

/-!
# Dump and restore

What lines can store is narrower than what a table can hold: both texts of a row were words of a
line. So every stored row can be written as a line again, with its id in decimal, and the lines of
all rows, carried out on a new table, restore the rows.
-/

namespace RowStore

/-- An ASCII digit separates no words. -/
theorem Text.not_blank_of_digit {c : Char} (digit : '0' ≤ c ∧ c ≤ '9') : isBlank c = false := by
  have low : 48 ≤ c.toNat := digit.1
  have high : c.toNat ≤ 57 := digit.2
  simp only [isBlank, inRanges, blankRanges, List.any_cons, List.any_nil, Bool.or_false,
    Bool.or_eq_false_iff, Bool.and_eq_false_iff, decide_eq_false_iff_not]
  omega

/-- Digits are a word. -/
theorem Text.Digits.word {text : List Char} {value : Nat} (digits : Digits text value) :
    Word text :=
  ⟨digits.nonempty, fun c member => not_blank_of_digit (digits.ascii c member)⟩

/-- A numeral is a word. -/
theorem Text.Numeral.word {text : List Char} {value : Int} (numeral : Numeral text value) :
    Word text := by
  cases numeral with
  | unsigned digits => exact digits.word
  | positive digits => exact ⟨by simp, List.forall_mem_cons.2 ⟨by decide, digits.word.solid⟩⟩
  | negative digits => exact ⟨by simp, List.forall_mem_cons.2 ⟨by decide, digits.word.solid⟩⟩

/-- A text that a line can store in a column: one word, without the padding character, that fits. -/
structure Field.Storable (field : Field) (text : String) : Prop where
  /-- It has a character, and none of its characters is blank. -/
  word : Text.Word text.toList
  /-- It does not contain the padding character. -/
  clean : '\x00' ∉ text.toList
  /-- Its bytes fit. -/
  narrow : text.utf8ByteSize ≤ field.width

/-- A row that a line can store. -/
structure Row.Storable (row : Row) : Prop where
  username : Field.username.Storable row.username
  email : Field.email.Storable row.email

namespace Row

/-- A storable row passes the check. -/
theorem Storable.check_eq {row : Row} (storable : row.Storable) : row.check = .ok () :=
  check_eq_ok.2 ⟨Field.check_eq_ok.2 ⟨storable.username.narrow, storable.username.clean⟩,
    Field.check_eq_ok.2 ⟨storable.email.narrow, storable.email.clean⟩⟩

/-- A line that writes a row: its four words with blanks between them, and perhaps around them. -/
inductive Dumped (row : Row) : String → Prop where
  | line {before first second third behind : String}
      (blank : ∀ gap ∈ [before, first, second, third, behind], Text.Blank gap.toList)
      (apart : ∀ gap ∈ [first, second, third], gap ≠ "") :
      Dumped row (before ++ "insert" ++ first ++ Text.decimal row.id.toInt ++ second ++
        row.username ++ third ++ row.email ++ behind)

/-- The plain line that writes a row, with single spaces. -/
def insertion (row : Row) : String :=
  "insert" ++ " " ++ Text.decimal row.id.toInt ++ " " ++ row.username ++ " " ++ row.email

/-- The plain line writes the row. -/
theorem dumped_insertion (row : Row) : row.Dumped row.insertion := by
  have plain : row.Dumped ("" ++ "insert" ++ " " ++ Text.decimal row.id.toInt ++ " " ++
      row.username ++ " " ++ row.email ++ "") :=
    .line (by simp [Text.Blank]; decide) (by decide)
  rwa [String.empty_append, String.append_empty] at plain

/-- The words of a line that writes a row whose texts are words. -/
theorem Dumped.worded {row : Row} {line : String} (dumped : row.Dumped line)
    (username : Text.Word row.username.toList) (email : Text.Word row.email.toList) :
    Statement.Worded line
      ["insert", Text.decimal row.id.toInt, row.username, row.email] := by
  cases dumped with
  | @line before first second third behind blank apart =>
    simp only [List.forall_mem_cons, ne_eq, ← String.toList_eq_nil_iff] at blank apart
    obtain ⟨blankBefore, blankFirst, blankSecond, blankThird, blankBehind, -⟩ := blank
    obtain ⟨apartFirst, apartSecond, apartThird, -⟩ := apart
    have keyword : Text.Word "insert".toList := ⟨by decide, by simp; decide⟩
    have number : Text.Word (Text.decimal row.id.toInt).toList :=
      (Text.numeral_decimal row.id.toInt).word
    rw [Statement.Worded, Text.runs_iff]
    simp only [String.toList_append, List.append_assoc, List.map_cons, List.map_nil]
    rw [Text.words_blank_append blankBefore,
      Text.words_word_gap keyword blankFirst apartFirst,
      Text.words_word_gap number blankSecond apartSecond,
      Text.words_word_gap username blankThird apartThird,
      Text.words_append_blank blankBehind, Text.words_of_word email]

/-- A line that writes a row of two words which both fit is the insertion of the row. -/
theorem Dumped.parse_fit {row : Row} {line : String} (dumped : row.Dumped line)
    (username : Text.Word row.username.toList) (email : Text.Word row.email.toList)
    (fits : row.check = .ok ()) : Statement.parse line = .insert row :=
  (Statement.Derives.insert (dumped.worded username email)
    (Text.numeral_decimal row.id.toInt) fits).parse_eq

/-- A line that writes a storable row is read as the insertion of the row. -/
theorem Dumped.parse_eq {row : Row} {line : String} (dumped : row.Dumped line)
    (storable : row.Storable) : Statement.parse line = .insert row :=
  dumped.parse_fit storable.username.word storable.email.word storable.check_eq

end Row

/-- A line inserts only a storable row, since both texts are words of the line. -/
theorem Statement.storable_of_parse {line : String} {row : Row}
    (read : parse line = .insert row) : row.Storable := by
  have derived := derives_parse line
  rw [read] at derived
  cases derived with
  | @insert id username email number worded valid fits =>
    obtain ⟨userFits, emailFits⟩ := Row.check_eq_ok.1 fits
    obtain ⟨userNarrow, userClean⟩ := Field.check_eq_ok.1 userFits
    obtain ⟨emailNarrow, emailClean⟩ := Field.check_eq_ok.1 emailFits
    have userWord : Text.Word username.toList := worded.word_of_mem (by simp)
    have emailWord : Text.Word email.toList := worded.word_of_mem (by simp)
    exact ⟨⟨userWord, userClean, userNarrow⟩, ⟨emailWord, emailClean, emailNarrow⟩⟩

namespace Table

/-- A table with a capacity that holds rows which lines can store. -/
structure Filled (table : Table) (capacity : Nat) (rows : List Row) : Prop where
  holds : table.Holds rows
  capacity_eq : table.capacity = capacity
  storable : ∀ row ∈ rows, row.Storable

variable {table : Table} {rows : List Row}

/-- A new table is filled with no rows. -/
theorem filled_empty (maxPages : Nat) :
    (empty maxPages).Filled (empty maxPages).capacity [] :=
  ⟨holds_empty maxPages, rfl, by simp⟩

/-- Carrying out a line keeps a table to rows that lines can store. -/
theorem Filled.execute_parse {capacity : Nat} (filled : table.Filled capacity rows)
    (line : String) :
    ∃ more, ((Statement.parse line).execute table).state.Filled capacity more := by
  cases read : Statement.parse line with
  | insert row =>
    have fits := Statement.storable_of_parse read
    rw [Statement.state_execute_insert]
    obtain ⟨-, -, kept⟩ | ⟨-, -, extended, capacity⟩ := filled.holds.insert_fitting fits.check_eq
    · exact ⟨rows, by rwa [kept]⟩
    · refine ⟨rows ++ [row], extended, capacity.trans filled.capacity_eq, ?_⟩
      exact List.forall_mem_append.2 ⟨filled.storable, List.forall_mem_singleton.2 fits⟩
  | select => exact ⟨rows, filled⟩
  | exit => exact ⟨rows, filled⟩
  | unrecognized text => exact ⟨rows, filled⟩
  | malformed reason => exact ⟨rows, filled⟩

/-- Carrying out lines keeps a table to rows that lines can store. -/
theorem Filled.after_parse {capacity : Nat} (filled : table.Filled capacity rows)
    (lines : List String) :
    ∃ more, (table.after (lines.map Statement.parse)).Filled capacity more := by
  induction lines generalizing table rows with
  | nil => exact ⟨rows, filled⟩
  | cons line later ih =>
    obtain ⟨more, next⟩ := filled.execute_parse line
    exact ih next

/-- Lines that write storable rows are all executed while there is room, and append the rows. -/
theorem Holds.after_dumped {earlier : List Row} {dump : List String}
    (holds : table.Holds earlier) (storable : ∀ row ∈ rows, row.Storable)
    (dumped : List.Forall₂ Row.Dumped rows dump)
    (room : earlier.length + rows.length ≤ table.capacity) :
    (table.exchanges (dump.map Statement.parse)).map Exchange.answer =
        List.replicate dump.length (.line "Executed.") ∧
      (table.after (dump.map Statement.parse)).Holds (earlier ++ rows) := by
  induction dumped generalizing table earlier with
  | nil => exact ⟨rfl, by rwa [List.append_nil]⟩
  | @cons row line rows dump written _ ih =>
    obtain ⟨fits, others⟩ := List.forall_mem_cons.1 storable
    rw [List.length_cons] at room
    obtain ⟨full, -⟩ | ⟨-, stored, extended, capacity⟩ := holds.insert_fitting fits.check_eq
    · omega
    · have rest := ih extended others (by
        rw [capacity, List.length_append, List.length_singleton]
        omega)
      rw [List.append_assoc, List.singleton_append] at rest
      rw [List.map_cons, written.parse_eq fits, exchanges, List.map_cons, after, List.foldl_cons,
        Statement.state_execute_insert, Statement.answer_execute_insert stored, rest.1]
      exact ⟨rfl, rest.2⟩

/-- Tables with the same rows are shown alike. -/
theorem answer_select_eq {table other : Table} (same : table.rows = other.rows) :
    (Statement.select.execute table).answer = (Statement.select.execute other).answer := by
  have yielded : table.scan.drain.answer = other.scan.drain.answer := same
  simp only [Statement.execute, yielded]

/-- Whatever lines have filled a table, every stored row has texts without blanks and padding
characters that fit their columns. Lines that write the rows in order, such as the plain ones, are
all executed on a new table with the same limit. They restore the rows, their number, the number
of pages and what is shown. -/
theorem restore_dump (maxPages : Nat) (lines : List String) :
    let table := (empty maxPages).after (lines.map Statement.parse)
    (∀ row ∈ table.rows, row.Storable) ∧
    List.Forall₂ Row.Dumped table.rows (table.rows.map Row.insertion) ∧
    ∀ dump, List.Forall₂ Row.Dumped table.rows dump →
      let script := dump.map Statement.parse
      let restored := (empty maxPages).after script
      ((empty maxPages).exchanges script).map Exchange.answer =
          List.replicate dump.length (.line "Executed.") ∧
        restored.rows = table.rows ∧ restored.size = table.size ∧
        restored.pages.count = table.pages.count ∧
        (Statement.select.execute restored).answer = (Statement.select.execute table).answer := by
  intro table
  obtain ⟨rows, filled⟩ : ∃ rows, table.Filled (empty maxPages).capacity rows :=
    (filled_empty maxPages).after_parse lines
  have stored := filled.holds.rows_eq
  rw [stored]
  refine ⟨filled.storable, ?_, fun dump dumped => ?_⟩
  · exact List.forall₂_map_right_iff.2 (List.forall₂_same.2 fun row _ => row.dumped_insertion)
  intro script restored
  have room : ([] : List Row).length + rows.length ≤ (empty maxPages).capacity := by
    rw [List.length_nil, Nat.zero_add, ← filled.holds.size_eq, ← filled.capacity_eq]
    exact filled.holds.size_le
  obtain ⟨answers, holds⟩ := (holds_empty maxPages).after_dumped filled.storable dumped room
  rw [List.nil_append] at holds
  have same : restored.rows = table.rows := holds.rows_eq.trans stored.symm
  refine ⟨answers, holds.rows_eq, ?_, ?_, answer_select_eq same⟩
  · exact holds.size_eq.trans filled.holds.size_eq.symm
  · exact holds.count_eq.trans filled.holds.count_eq.symm

/-- Two rows are dumped with blanks of several kinds and restored. -/
theorem restore_dump_two_rows :
    let lines := ["insert -2147483648 a b", "insert 7 c", "insert +07 c d"]
    let table := (empty 1).after (lines.map Statement.parse)
    let dump := ["" ++ "insert" ++ " " ++ "-2147483648" ++ "\t " ++ "a" ++ " " ++ "b" ++ "\n",
      "\u3000" ++ "insert" ++ " \x0b" ++ "7" ++ " " ++ "c" ++ "\u2028" ++ "d" ++ ""]
    List.Forall₂ Row.Dumped table.rows dump ∧
      let script := dump.map Statement.parse
      let restored := (empty 1).after script
      ((empty 1).exchanges script).map Exchange.answer = List.replicate 2 (.line "Executed.") ∧
        restored.rows = table.rows ∧ restored.size = table.size ∧
        restored.pages.count = table.pages.count ∧
        (Statement.select.execute restored).answer = (Statement.select.execute table).answer := by
  intro lines table dump
  have parsed : lines.map Statement.parse =
      [.insert ⟨Int32.minValue, "a", "b"⟩, .malformed .wordCount, .insert ⟨7, "c", "d"⟩] := by
    decide
  have inserted : table =
      (empty 1).insertAll [⟨Int32.minValue, "a", "b"⟩, ⟨7, "c", "d"⟩] := by
    simp only [table, parsed]
    rfl
  have stored : table.rows = [⟨Int32.minValue, "a", "b"⟩, ⟨7, "c", "d"⟩] := by
    rw [inserted, ((holds_empty 1).insertAll _).1.rows_eq]
    decide
  have written : List.Forall₂ Row.Dumped table.rows dump := by
    rw [stored]
    refine .cons ?_ (.cons ?_ .nil)
    · exact .line (by simp [Text.Blank]; decide) (by decide)
    · exact .line (by simp [Text.Blank]; decide) (by decide)
  exact ⟨written, (restore_dump 1 lines).2.2 dump written⟩

end Table

end RowStore
