import RowStore.Proofs.Text.Numeral
import RowStore.Proofs.Text.Words
import RowStore.Statement

/-!
# The grammar of statements

Each kind of statement has one rule, which says of the words of a line when the line is such a
statement; a line to which no other rule applies is unrecognized and kept without the blanks
around it. Reading a line gives exactly the statement that the rules derive for it.
-/

namespace RowStore.Statement

/-- The words of a line are its maximal runs of characters that are not blank. -/
def Worded (line : String) (words : List String) : Prop :=
  Text.Runs line.toList (words.map String.toList)

/-- The statement that a line is, by the words of the line. -/
inductive Derives (line : String) : Statement → Prop where
  /-- The command to leave stands alone. -/
  | exit (words : Worded line [".exit"]) : Derives line .exit
  /-- Whatever follows the keyword is passed over. -/
  | select {later : List String} (words : Worded line ("select" :: later)) :
      Derives line .select
  /-- Exactly three words follow the keyword of an insertion. -/
  | wordCount {later : List String} (words : Worded line ("insert" :: later))
      (count : later.length ≠ 3) : Derives line (.malformed .wordCount)
  /-- No numeral of a 32-bit integer is written in the place of the id. -/
  | invalidId {id username email : String}
      (words : Worded line ["insert", id, username, email])
      (invalid : ∀ value, Text.Numeral id.toList value →
        value < -2147483648 ∨ 2147483647 < value) :
      Derives line (.malformed (.invalidId id))
  /-- The id is a number, but a text does not fit its column. -/
  | field {id username email : String} {number : Int32} {error : RowError}
      (words : Worded line ["insert", id, username, email])
      (valid : Text.Numeral id.toList number.toInt)
      (unfit : Row.check ⟨number, username, email⟩ = .error error) :
      Derives line (.malformed (.field error))
  /-- The id is a number, and both texts fit. -/
  | insert {id username email : String} {number : Int32}
      (words : Worded line ["insert", id, username, email])
      (valid : Text.Numeral id.toList number.toInt)
      (fits : Row.check ⟨number, username, email⟩ = .ok ()) :
      Derives line (.insert ⟨number, username, email⟩)
  /-- All other lines keep their text, without the blanks around it. -/
  | unrecognized {words : List String} {text : String} (words_eq : Worded line words)
      (notExit : words ≠ [".exit"]) (notSelect : words.head? ≠ some "select")
      (notInsert : words.head? ≠ some "insert")
      (trimmed : Text.Trimmed line.toList text.toList) : Derives line (.unrecognized text)

/-- Texts are equal when their characters are. -/
theorem toList_map_inj {left right : List String} :
    left.map String.toList = right.map String.toList ↔ left = right :=
  List.map_inj_right fun _ _ => String.toList_inj.1

/-- The computed words are the words of a line. -/
theorem worded_words (line : String) :
    Worded line ((Text.words line.toList).map String.ofList) := by
  have back : ((Text.words line.toList).map String.ofList).map String.toList =
      Text.words line.toList := by
    rw [List.map_map]
    exact List.map_id'' (fun _ => String.toList_ofList) _
  rw [Worded, back]
  exact Text.runs_iff.2 rfl

/-- An insertion of other than three words is refused for their number. -/
theorem readRow_of_length_ne {arguments : List (List Char)} (count : arguments.length ≠ 3) :
    readRow arguments = .error .wordCount := by
  rw [readRow.eq_def]
  split
  · exact absurd rfl count
  · rfl

/-- An insertion of three words is refused for its id, then for a text, and otherwise read. -/
theorem readRow_three (id username email : String) :
    readRow [id.toList, username.toList, email.toList] =
      match Text.int32? id.toList with
      | none => .error (.invalidId id)
      | some number =>
        match Row.check ⟨number, username, email⟩ with
        | .error error => .error (.field error)
        | .ok () => .ok ⟨number, username, email⟩ := by
  rw [readRow, String.ofList_toList, String.ofList_toList, String.ofList_toList]
  cases Text.int32? id.toList with
  | none => rfl
  | some number =>
    simp only [Row.make]
    cases Row.check ⟨number, username, email⟩ with
    | error error => rfl
    | ok => rfl

/-- The statement of an insertion whose words were read. -/
def ofRead : Except ParseError Row → Statement
  | .ok row => .insert row
  | .error reason => .malformed reason

section

variable {line : String} {words : List String}

/-- The trimmed line is the command to leave exactly when that is the only word. -/
theorem trim_eq_exit_iff (worded : Worded line words) :
    Text.trim line.toList = ".exit".toList ↔ words = [".exit"] := by
  have solid : (".exit".toList.all fun c => !Text.isBlank c) = true := by decide
  have isWord : Text.Word ".exit".toList :=
    ⟨by decide, fun c member => by simpa using List.all_eq_true.1 solid c member⟩
  have alone : words.map String.toList = [".exit"].map String.toList ↔ words = [".exit"] :=
    toList_map_inj
  rw [Text.trim_eq_iff_words_eq isWord, Text.runs_iff.1 worded]
  exact alone

/-- The word for it is read as the command to leave. -/
theorem parse_exit (worded : Worded line [".exit"]) : parse line = .exit := by
  rw [parse, ofChars, if_pos ((trim_eq_exit_iff worded).2 rfl)]

/-- A line that begins with the word for it is read as the command to show the table, whatever
follows. -/
theorem parse_select {later : List String} (worded : Worded line ("select" :: later)) :
    parse line = .select := by
  have stays : ¬Text.trim line.toList = ".exit".toList :=
    mt (trim_eq_exit_iff worded).1 (by simp)
  rw [parse, ofChars, if_neg stays, Text.runs_iff.1 worded]
  exact if_pos rfl

/-- A line that begins with the word for it is read as an insertion of what follows. -/
theorem parse_insert {arguments : List String} (worded : Worded line ("insert" :: arguments)) :
    parse line = ofRead (readRow (arguments.map String.toList)) := by
  have stays : ¬Text.trim line.toList = ".exit".toList :=
    mt (trim_eq_exit_iff worded).1 (by simp)
  have other : ¬"insert".toList = "select".toList := by decide
  rw [parse, ofChars, if_neg stays, Text.runs_iff.1 worded, List.map_cons]
  simp only [if_neg other, if_pos]
  rfl

/-- A line of other words is not recognized, and kept without the blanks at its ends. -/
theorem parse_unknown (worded : Worded line words) (notExit : words ≠ [".exit"])
    (notSelect : words.head? ≠ some "select") (notInsert : words.head? ≠ some "insert") :
    parse line = .unrecognized (.ofList (Text.trim line.toList)) := by
  have stays : ¬Text.trim line.toList = ".exit".toList :=
    mt (trim_eq_exit_iff worded).1 notExit
  rw [parse, ofChars, if_neg stays, Text.runs_iff.1 worded]
  cases words with
  | nil => rfl
  | cons keyword arguments =>
    have unselected : ¬keyword.toList = "select".toList := by
      rw [String.toList_inj]
      simpa using notSelect
    have uninserted : ¬keyword.toList = "insert".toList := by
      rw [String.toList_inj]
      simpa using notInsert
    rw [List.map_cons]
    simp only [if_neg unselected, if_neg uninserted]

/-- The rules derive what the words of an insertion are read as. -/
theorem derives_insert {arguments : List String}
    (worded : Worded line ("insert" :: arguments)) :
    Derives line (ofRead (readRow (arguments.map String.toList))) := by
  by_cases count : arguments.length = 3
  · obtain ⟨id, username, email, rfl⟩ := List.length_eq_three.1 count
    rw [List.map_cons, List.map_cons, List.map_cons, List.map_nil, readRow_three]
    cases read : Text.int32? id.toList with
    | none => exact .invalidId worded (Text.int32?_eq_none.1 read)
    | some number =>
      have valid := Text.int32?_eq_some.1 read
      cases checked : Row.check ⟨number, username, email⟩ with
      | error error =>
        simp only [checked]
        exact .field worded valid checked
      | ok =>
        simp only [checked]
        exact .insert worded valid checked
  · rw [readRow_of_length_ne (by rwa [List.length_map])]
    exact .wordCount worded count

end

/-- Reading a line gives a statement that the rules derive. -/
theorem derives_parse (line : String) : Derives line (parse line) := by
  obtain ⟨words, worded⟩ : ∃ words, Worded line words := ⟨_, worded_words line⟩
  by_cases exits : words = [".exit"]
  · subst exits
    rw [parse_exit worded]
    exact .exit worded
  by_cases selects : words.head? = some "select"
  · obtain ⟨later, rfl⟩ := List.head?_eq_some_iff.1 selects
    rw [parse_select worded]
    exact .select worded
  by_cases inserts : words.head? = some "insert"
  · obtain ⟨arguments, rfl⟩ := List.head?_eq_some_iff.1 inserts
    rw [parse_insert worded]
    exact derives_insert worded
  have trimmed : Text.Trimmed line.toList (String.ofList (Text.trim line.toList)).toList := by
    rw [String.toList_ofList]
    exact Text.trimmed_trim _
  rw [parse_unknown worded exits selects inserts]
  exact .unrecognized worded exits selects inserts trimmed

/-- The rules derive no other statement than the one that is read. -/
theorem Derives.parse_eq {line : String} {statement : Statement}
    (derived : Derives line statement) : parse line = statement := by
  cases derived with
  | exit worded => exact parse_exit worded
  | select worded => exact parse_select worded
  | wordCount worded count =>
    rw [parse_insert worded, readRow_of_length_ne (by rwa [List.length_map]), ofRead]
  | @invalidId id username email worded invalid =>
    have read := Text.int32?_eq_none.2 invalid
    have row := readRow_three id username email
    rw [read] at row
    exact (parse_insert worded).trans (congrArg ofRead row)
  | @field id username email number error worded valid unfit =>
    have read := Text.int32?_eq_some.2 valid
    have row := readRow_three id username email
    simp only [read, unfit] at row
    exact (parse_insert worded).trans (congrArg ofRead row)
  | @insert id username email number worded valid fits =>
    have read := Text.int32?_eq_some.2 valid
    have row := readRow_three id username email
    simp only [read, fits] at row
    exact (parse_insert worded).trans (congrArg ofRead row)
  | @unrecognized words text worded notExit notSelect notInsert trimmed =>
    rw [parse_unknown worded notExit notSelect notInsert, trimmed.trim_eq, String.ofList_toList]

/-- Lines of the same words are the same statement, unless both are unrecognized. -/
theorem parse_eq_of_worded {line other : String} {words : List String}
    (worded : Worded line words) (same : Worded other words) :
    parse line = parse other ∨
      ∃ text rest, parse line = .unrecognized text ∧ parse other = .unrecognized rest := by
  by_cases exits : words = [".exit"]
  · subst exits
    exact .inl ((parse_exit worded).trans (parse_exit same).symm)
  by_cases selects : words.head? = some "select"
  · obtain ⟨later, rfl⟩ := List.head?_eq_some_iff.1 selects
    exact .inl ((parse_select worded).trans (parse_select same).symm)
  by_cases inserts : words.head? = some "insert"
  · obtain ⟨arguments, rfl⟩ := List.head?_eq_some_iff.1 inserts
    exact .inl ((parse_insert worded).trans (parse_insert same).symm)
  exact .inr ⟨_, _, parse_unknown worded exits selects inserts,
    parse_unknown same exits selects inserts⟩

/-- A text that is not recognized is the trimmed line. -/
theorem trimmed_of_parse {line text : String} (read : parse line = .unrecognized text) :
    Text.Trimmed line.toList text.toList := by
  have derived := derives_parse line
  rw [read] at derived
  cases derived with
  | unrecognized _ _ _ _ trimmed => exact trimmed

/-- The blanks around a line do not count. -/
theorem parse_trimmed {line core : String} (trimmed : Text.Trimmed line.toList core.toList) :
    parse core = parse line := by
  have computed := trimmed.trim_eq
  have worded := worded_words line
  have same : Worded core ((Text.words line.toList).map String.ofList) := by
    rw [Worded, Text.runs_iff, ← computed, Text.words_trim]
    exact Text.runs_iff.1 worded
  obtain equal | ⟨text, rest, readCore, readLine⟩ := parse_eq_of_worded same worded
  · exact equal
  · have coreText : Text.trim core.toList = text.toList := (trimmed_of_parse readCore).trim_eq
    have lineText : Text.trim line.toList = rest.toList := (trimmed_of_parse readLine).trim_eq
    have texts : text = rest := by
      rw [← String.toList_inj, ← coreText, ← lineText, ← computed, Text.trim_trim]
    rw [readCore, readLine, texts]

/-- A line is exactly the statement that the rules derive from its words. So lines of the same
words are the same statement unless both are unrecognized, the blanks around a line do not
count, and the text of an unrecognized line is unrecognized as it stands. -/
theorem parse_eq_iff_derives (line : String) :
    (∀ statement, parse line = statement ↔ Derives line statement) ∧
    (∀ other words, Worded line words → Worded other words → parse line = parse other ∨
      ∃ text rest, parse line = .unrecognized text ∧ parse other = .unrecognized rest) ∧
    (∀ core : String, Text.Trimmed line.toList core.toList → parse core = parse line) ∧
    ∀ text, parse line = .unrecognized text → parse text = .unrecognized text := by
  refine ⟨fun statement => ?_, fun other words => parse_eq_of_worded,
    fun core => parse_trimmed, fun text read => ?_⟩
  · constructor
    · rintro rfl
      exact derives_parse line
    · exact Derives.parse_eq
  · rw [parse_trimmed (trimmed_of_parse read), read]

end RowStore.Statement
