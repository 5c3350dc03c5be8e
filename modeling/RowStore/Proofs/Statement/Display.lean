import RowStore.Proofs.Statement.Framing

/-!
# What a table on display tells

Rows are shown as they are, without quotes, so two rows with spaces in their texts can look alike.
Rows that lines have stored cannot: their texts are words, and so a row on display is three words
again, whatever marks stand in them. As each row takes one line, what is shown of a whole table
tells its rows.
-/

namespace RowStore

/-- A word with other characters before and behind it is a word, unless one of these is blank. -/
theorem Text.Word.enclose {word : List Char} (isWord : Word word) {before behind : List Char}
    (first : before.all (!isBlank ·) = true) (last : behind.all (!isBlank ·) = true) :
    Word (before ++ word ++ behind) := by
  constructor
  case nonempty => simp [isWord.nonempty]
  case solid =>
    intro c member
    rw [List.mem_append, List.mem_append] at member
    rcases member with (early | inner) | late
    · simpa using List.all_eq_true.1 first c early
    · exact isWord.solid c inner
    · simpa using List.all_eq_true.1 last c late

/-- Integers are printed alike only if they are equal. -/
theorem Text.decimal_injective {number other : Int} (same : decimal number = decimal other) :
    number = other := by
  have read := integer?_eq_some.2 (numeral_decimal number)
  rw [same, integer?_eq_some.2 (numeral_decimal other)] at read
  exact (Option.some.inj read).symm

namespace Row

/-- A storable row on display is three words: the id and both texts, each with its marks. -/
theorem Storable.words_display {row : Row} (storable : row.Storable) :
    Text.words row.display.toList =
      [['('] ++ (Text.decimal row.id.toInt).toList ++ [','], [] ++ row.username.toList ++ [','],
        [] ++ row.email.toList ++ [')']] := by
  have number : Text.Word (['('] ++ (Text.decimal row.id.toInt).toList ++ [',']) :=
    (Text.numeral_decimal row.id.toInt).word.enclose (by decide) (by decide)
  have username : Text.Word ([] ++ row.username.toList ++ [',']) :=
    storable.username.word.enclose (by decide) (by decide)
  have email : Text.Word ([] ++ row.email.toList ++ [')']) :=
    storable.email.word.enclose (by decide) (by decide)
  have space : Text.Blank [' '] := by simp [Text.Blank]; decide
  have shown : row.display.toList =
      ['('] ++ (Text.decimal row.id.toInt).toList ++ [','] ++ ([' '] ++
        ([] ++ row.username.toList ++ [','] ++ ([' '] ++ ([] ++ row.email.toList ++ [')'])))) := by
    simp [display]
  rw [shown, Text.words_word_gap number space (by simp),
    Text.words_word_gap username space (by simp), Text.words_of_word email]

/-- Storable rows are shown alike only if they are equal. -/
theorem Storable.eq_of_display {row other : Row} (storable : row.Storable)
    (also : other.Storable) (same : row.display = other.display) : row = other := by
  have words := storable.words_display
  rw [same, also.words_display] at words
  simp only [List.cons.injEq, List.append_cancel_right_eq, List.append_cancel_left_eq,
    String.toList_inj, and_true] at words
  obtain ⟨number, username, email⟩ := words
  have id : other.id = row.id := Int32.toInt_inj.1 (Text.decimal_injective number)
  obtain ⟨_, _, _⟩ := row
  obtain ⟨_, _, _⟩ := other
  simp_all

/-- Lists of storable rows are shown alike only if they are equal. -/
theorem eq_of_displays {rows others : List Row} (storable : ∀ row ∈ rows, row.Storable)
    (also : ∀ row ∈ others, row.Storable) (same : rows.map display = others.map display) :
    rows = others := by
  induction rows generalizing others with
  | nil => exact (List.map_eq_nil_iff.1 same.symm).symm
  | cons row later ih =>
    obtain ⟨first, rest, rfl, shown, left⟩ := List.map_eq_cons_iff.1 same.symm
    obtain ⟨fits, others⟩ := List.forall_mem_cons.1 storable
    obtain ⟨alsoFits, alsoOthers⟩ := List.forall_mem_cons.1 also
    rw [fits.eq_of_display alsoFits shown.symm, ih others alsoOthers left.symm]

/-- Exactly the storable rows are inserted by some line. -/
theorem storable_iff_parse {row : Row} :
    row.Storable ↔ ∃ line, Statement.parse line = .insert row := by
  constructor
  · intro storable
    exact ⟨row.insertion, row.dumped_insertion.parse_eq storable⟩
  · rintro ⟨line, read⟩
    exact Statement.storable_of_parse read

end Row

namespace Table

/-- All rows are shown, and then the statement is reported as executed. -/
theorem lines_select (table : Table) :
    (Statement.select.execute table).answer.lines =
      table.rows.map Row.display ++ ["Executed."] :=
  rfl

/-- Tables that lines have filled are shown alike only if they have the same rows. -/
theorem Filled.rows_eq_of_select {table other : Table} {capacity otherCapacity : Nat}
    {rows others : List Row} (filled : table.Filled capacity rows)
    (also : other.Filled otherCapacity others)
    (same : (Statement.select.execute table).answer.chars =
      (Statement.select.execute other).answer.chars) : table.rows = other.rows := by
  have lines := filled.framed_select.lines_eq also.framed_select same
  rw [lines_select, lines_select, filled.holds.rows_eq, also.holds.rows_eq] at lines
  have displays : rows.map Row.display = others.map Row.display := List.append_cancel_right lines
  rw [filled.holds.rows_eq, also.holds.rows_eq]
  exact Row.eq_of_displays filled.storable also.storable displays

/-- Whatever lines have filled two tables, each holds the rows that it yields, and the bytes that
show the tables are the same exactly when these rows are. For the rows that lines can insert are
those whose texts are words that fit, and no two of them are shown alike, whatever marks their
texts contain; while among rows with spaces, which fit as well, there are some that are. -/
theorem select_eq_iff_rows_eq (maxPages otherPages : Nat) (lines others : List String) :
    let table := (empty maxPages).after (lines.map Statement.parse)
    let other := (empty otherPages).after (others.map Statement.parse)
    table.Holds table.rows ∧ other.Holds other.rows ∧
    (Text.Utf8.encode (Statement.select.execute table).answer.chars =
        Text.Utf8.encode (Statement.select.execute other).answer.chars ↔
      table.rows = other.rows) ∧
    (∀ row : Row, row.Storable ↔ ∃ line, Statement.parse line = .insert row) ∧
    (∀ row another : Row, row.Storable → another.Storable → row.display = another.display →
      row = another) ∧
    ∃ row another : Row, row.check = .ok () ∧ another.check = .ok () ∧
      row.display = another.display ∧ row ≠ another := by
  intro table other
  obtain ⟨rows, filled⟩ := (filled_empty maxPages).after_parse lines
  obtain ⟨otherRows, also⟩ := (filled_empty otherPages).after_parse others
  have tableHolds : table.Holds table.rows := by
    rw [filled.holds.rows_eq]
    exact filled.holds
  have otherHolds : other.Holds other.rows := by
    rw [also.holds.rows_eq]
    exact also.holds
  refine ⟨tableHolds, otherHolds, ⟨fun bytes => ?_, fun same => ?_⟩, ?_, ?_, ?_⟩
  · apply filled.rows_eq_of_select also
    rw [← Text.Utf8.decodeLossy_encode (Statement.select.execute _).answer.chars, bytes,
      Text.Utf8.decodeLossy_encode]
  · rw [answer_select_eq same]
  · intro row
    exact Row.storable_iff_parse
  · intro row another storable fits shown
    exact storable.eq_of_display fits shown
  · exact ⟨⟨1, "a, b", "c"⟩, ⟨1, "a", "b, c"⟩, by decide, by decide, by decide, by decide⟩

/-- Two tables with the same row, whose texts look like an answer and like the display of a row. -/
theorem select_eq_iff_rows_eq_marks :
    let table := (empty 1).after (["insert 1 Executed. (1,\"b)"].map Statement.parse)
    let other := (empty 2).after
      (["nothing", " insert +01 Executed.\t(1,\"b)\n"].map Statement.parse)
    Text.Utf8.encode (Statement.select.execute table).answer.chars =
        Text.Utf8.encode (Statement.select.execute other).answer.chars ∧
      table.rows = other.rows := by
  intro table other
  have read : ["insert 1 Executed. (1,\"b)"].map Statement.parse =
      [.insert ⟨1, "Executed.", "(1,\"b)"⟩] := by decide
  have also : ["nothing", " insert +01 Executed.\t(1,\"b)\n"].map Statement.parse =
      [.unrecognized "nothing", .insert ⟨1, "Executed.", "(1,\"b)"⟩] := by decide
  have rows : table.rows = [⟨1, "Executed.", "(1,\"b)"⟩] := by
    have inserted : table = (empty 1).insertAll [⟨1, "Executed.", "(1,\"b)"⟩] := by
      simp only [table, read]
      rfl
    rw [inserted, ((holds_empty 1).insertAll _).1.rows_eq]
    decide
  have others : other.rows = [⟨1, "Executed.", "(1,\"b)"⟩] := by
    have inserted : other = (empty 2).insertAll [⟨1, "Executed.", "(1,\"b)"⟩] := by
      simp only [other, also]
      rfl
    rw [inserted, ((holds_empty 2).insertAll _).1.rows_eq]
    decide
  have bytes : Text.Utf8.encode (Statement.select.execute table).answer.chars =
      Text.Utf8.encode (Statement.select.execute other).answer.chars := by
    rw [answer_select_eq (rows.trans others.symm)]
  obtain ⟨-, -, shown, -⟩ := select_eq_iff_rows_eq 1 2 ["insert 1 Executed. (1,\"b)"]
    ["nothing", " insert +01 Executed.\t(1,\"b)\n"]
  exact ⟨bytes, shown.1 bytes⟩

end Table

end RowStore
