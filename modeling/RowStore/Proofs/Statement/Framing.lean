import RowStore.Proofs.Statement.Dump

/-!
# Answers as lines

An answer repeats what was put in: the texts of rows, a line that is not recognized, an id that is
no number. Where the statement was one line, none of these holds a line feed. So each line of an
answer is one line of the output, and the lines can be told from the characters of the answer.
-/

namespace RowStore

/-- A text of one line: a line feed stands at most at its end. -/
def Text.SingleLine (text : List Char) : Prop := '\n' ∉ text.dropLast

/-- A word holds no line feed. -/
theorem Text.Word.lineFeed_not_mem {text : List Char} (word : Word text) : '\n' ∉ text := by
  intro member
  have solid := word.solid '\n' member
  exact absurd solid (by decide)

/-- What is between the outer blanks of one line holds no line feed. -/
theorem Text.Trimmed.lineFeed_not_mem {text core : List Char} (trimmed : Trimmed text core)
    (single : SingleLine text) : '\n' ∉ core := by
  intro member
  obtain ⟨before, behind, rfl, -, -⟩ := trimmed.parts
  have nonempty : core ≠ [] := List.ne_nil_of_mem member
  have last : core.getLast nonempty ≠ '\n' := by
    intro same
    have solid := trimmed.last _ (List.getLast?_eq_some_getLast nonempty)
    rw [same] at solid
    exact absurd solid (by decide)
  have inner : '\n' ∈ core.dropLast := by
    rw [← List.dropLast_append_getLast nonempty, List.mem_append] at member
    rcases member with inner | ends
    · exact inner
    · exact absurd (List.mem_singleton.1 ends).symm last
  have within : core.dropLast <+: (core ++ behind).dropLast := by
    cases behind with
    | nil => rw [List.append_nil]
    | cons c later =>
      rw [List.dropLast_append_of_ne_nil (List.cons_ne_nil c later)]
      exact (List.dropLast_prefix core).trans (List.prefix_append core _)
  apply single
  rw [List.dropLast_append_of_ne_nil (List.append_ne_nil_of_left_ne_nil nonempty behind)]
  exact List.mem_append_right before (within.subset inner)

/-- The first separator of a list divides it in one way only. -/
theorem append_separator_inj {α : Type} {separator : α} {front other rest later : List α}
    (clean : separator ∉ front) (plain : separator ∉ other)
    (same : front ++ separator :: rest = other ++ separator :: later) :
    front = other ∧ rest = later := by
  rcases List.append_eq_append_iff.1 same with ⟨more, rfl, tail⟩ | ⟨more, rfl, tail⟩
  · cases more with
    | nil => simpa using tail
    | cons entry others =>
      obtain ⟨rfl, -⟩ := List.cons_eq_cons.1 tail
      exact absurd (List.mem_append_right front (List.mem_cons_self ..)) plain
  · cases more with
    | nil => simpa using tail.symm
    | cons entry others =>
      obtain ⟨rfl, -⟩ := List.cons_eq_cons.1 tail
      exact absurd (List.mem_append_right other (List.mem_cons_self ..)) clean

/-- Each line of an answer is one line of the output. -/
def Outcome.Framed (outcome : Outcome) : Prop := ∀ line ∈ outcome.lines, '\n' ∉ line.toList

namespace Outcome

/-- An answer of one line is framed when its text holds no line feed. -/
theorem framed_line {text : String} : (line text).Framed ↔ '\n' ∉ text.toList := by
  simp [Framed, line]

/-- A framed answer has one line feed for each line. -/
theorem Framed.count_chars {outcome : Outcome} (framed : outcome.Framed) :
    outcome.chars.count '\n' = outcome.lines.length := by
  rw [Framed] at framed
  rw [chars]
  generalize outcome.lines = lines at framed ⊢
  induction lines with
  | nil => rfl
  | cons line later ih =>
    obtain ⟨clean, others⟩ := List.forall_mem_cons.1 framed
    rw [List.flatMap_cons, List.count_append, List.count_append, ih others,
      List.count_eq_zero.2 clean, List.length_cons]
    simp [Nat.add_comm]

/-- Framed answers have the same characters only if they have the same lines. -/
theorem Framed.lines_eq {outcome other : Outcome} (framed : outcome.Framed)
    (also : other.Framed) (same : outcome.chars = other.chars) : outcome.lines = other.lines := by
  rw [Framed] at framed also
  rw [chars, chars] at same
  generalize outcome.lines = lines at framed same ⊢
  generalize other.lines = others at also same ⊢
  induction lines generalizing others with
  | nil =>
    cases others with
    | nil => rfl
    | cons line later => simp at same
  | cons line later ih =>
    cases others with
    | nil => simp at same
    | cons first rest =>
      obtain ⟨clean, cleanLater⟩ := List.forall_mem_cons.1 framed
      obtain ⟨plain, plainRest⟩ := List.forall_mem_cons.1 also
      rw [List.flatMap_cons, List.flatMap_cons, List.append_assoc, List.append_assoc,
        List.singleton_append, List.singleton_append] at same
      obtain ⟨head, tail⟩ := append_separator_inj clean plain same
      rw [String.toList_inj.1 head, ih cleanLater rest plainRest tail]

end Outcome

/-- The report of a row error holds no line feed. -/
theorem RowError.lineFeed_not_mem_message (error : RowError) : '\n' ∉ error.message.toList := by
  cases error with
  | tooLong field length limit =>
    have digits : '\n' ∉ limit.repr.toList := (Text.digits_repr limit).word.lineFeed_not_mem
    have name : '\n' ∉ field.name.toList := by cases field <;> decide
    simp only [message, String.toList_append, List.mem_append, digits, name, or_false, false_or]
    decide
  | containsNul field =>
    have name : '\n' ∉ field.name.toList := by cases field <;> decide
    simp [message, name]

/-- A row that a line can store is shown on one line. -/
theorem Row.Storable.lineFeed_not_mem_display {row : Row} (storable : row.Storable) :
    '\n' ∉ row.display.toList := by
  have number : '\n' ∉ (Text.decimal row.id.toInt).toList :=
    (Text.numeral_decimal row.id.toInt).word.lineFeed_not_mem
  have username := storable.username.word.lineFeed_not_mem
  have email := storable.email.word.lineFeed_not_mem
  simp [display, number, username, email]

namespace Table.Filled

variable {table : Table} {capacity : Nat} {rows : List Row}

/-- The rows that lines have stored are shown on one line each. -/
theorem framed_select (filled : table.Filled capacity rows) :
    (Statement.select.execute table).answer.Framed := by
  have yielded : table.scan.drain.answer = rows := filled.holds.rows_eq
  intro line member
  simp only [Statement.execute, yielded, List.mem_append, List.mem_map, List.mem_singleton]
    at member
  rcases member with ⟨row, stored, rfl⟩ | rfl
  · exact (filled.storable row stored).lineFeed_not_mem_display
  · decide

/-- Whatever one line asks for, the answer to it is framed. -/
theorem framed_execute (filled : table.Filled capacity rows) {line : String}
    (single : Text.SingleLine line.toList) :
    ((Statement.parse line).execute table).answer.Framed := by
  have derived := Statement.derives_parse line
  generalize Statement.parse line = statement at derived ⊢
  cases derived with
  | exit words => simp [Statement.execute, Outcome.Framed]
  | select words => exact filled.framed_select
  | wordCount words count => exact Outcome.framed_line.2 (by decide)
  | @invalidId id username email words invalid =>
    have clean : '\n' ∉ id.toList :=
      (Text.Runs.word_of_mem words (by simp)).lineFeed_not_mem
    apply Outcome.framed_line.2
    simp [ParseError.message, clean]
  | @field id username email number error words valid unfit =>
    have clean := error.lineFeed_not_mem_message
    apply Outcome.framed_line.2
    simp [ParseError.message, clean]
  | @insert id username email number words valid fits =>
    obtain ⟨-, refused, -⟩ | ⟨-, stored, -⟩ := filled.holds.insert_fitting fits
    · rw [Statement.answer_execute_insert_refused refused]
      exact Outcome.framed_line.2 (by decide)
    · rw [Statement.answer_execute_insert stored]
      exact Outcome.framed_line.2 (by decide)
  | @unrecognized words text worded notExit notSelect notInsert trimmed =>
    have clean := trimmed.lineFeed_not_mem single
    apply Outcome.framed_line.2
    simp [clean]

end Table.Filled

end RowStore
