import RowStore.Row
import RowStore.Text.Blank

/-!
# Statements

A line is a statement. Its words decide which one, except that the command to leave
must be the whole trimmed line. A line is never refused: one that is no statement is kept
as unrecognized text, and an insertion that cannot be carried out is kept with the first
reason, where the number of words comes before the id and the id before the texts.
-/

namespace RowStore

/-- Why an insertion cannot be read. -/
inductive ParseError where
  /-- The words are not three. -/
  | wordCount
  /-- The id is no 32-bit integer. -/
  | invalidId (word : String)
  /-- A text does not fit its column. -/
  | field (error : RowError)
  deriving DecidableEq, Repr

/-- The report of a parse error. -/
def ParseError.message : ParseError → String
  | .wordCount => "could not parse statement"
  | .invalidId word => "invalid id '" ++ word ++ "'"
  | .field error => error.message

/-- What a line asks for. -/
inductive Statement where
  /-- Store a row. -/
  | insert (row : Row)
  /-- Show every row. -/
  | select
  /-- Leave the session. -/
  | exit
  /-- Nothing known. -/
  | unrecognized (text : String)
  /-- Store a row that cannot be read. -/
  | malformed (reason : ParseError)
  deriving DecidableEq, Repr

namespace Statement

/-- The row that the words after the keyword describe. -/
def readRow : List (List Char) → Except ParseError Row
  | [id, username, email] =>
    match Text.int32? id with
    | none => .error (.invalidId (.ofList id))
    | some id => (Row.make id (.ofList username) (.ofList email)).mapError .field
  | _ => .error .wordCount

/-- The statement of a line given as characters. -/
def ofChars (line : List Char) : Statement :=
  if Text.trim line = ".exit".toList then .exit
  else
    match Text.words line with
    | keyword :: arguments =>
      if keyword = "select".toList then .select
      else if keyword = "insert".toList then
        match readRow arguments with
        | .ok row => .insert row
        | .error reason => .malformed reason
      else .unrecognized (.ofList (Text.trim line))
    | [] => .unrecognized (.ofList (Text.trim line))

/-- The statement of a line. -/
def parse (line : String) : Statement := ofChars line.toList

/-- A row is read only if its texts fit their columns. -/
theorem check_of_readRow {arguments : List (List Char)} {row : Row}
    (read : readRow arguments = .ok row) : row.check = .ok () := by
  rw [readRow.eq_def] at read
  split at read
  · split at read
    · cases read
    · next id username email _ number _ =>
      cases made : Row.make number (.ofList username) (.ofList email) with
      | error error =>
        rw [made] at read
        cases read
      | ok built =>
        rw [made] at read
        cases read
        exact Row.check_of_make made
  · cases read

/-- A line is an insertion only if the row fits its columns. -/
theorem check_of_parse {line : String} {row : Row} (parsed : parse line = .insert row) :
    row.check = .ok () := by
  rw [parse, ofChars] at parsed
  split at parsed
  · cases parsed
  · split at parsed
    · split at parsed
      · cases parsed
      · split at parsed
        · split at parsed
          · next read =>
            cases parsed
            exact check_of_readRow read
          · cases parsed
        · cases parsed
    · cases parsed

end Statement

end RowStore
