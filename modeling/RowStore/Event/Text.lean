import RowStore.Event
import RowStore.Text.Quoted

/-!
# The text of log events

A log line gives the level, the message and then the values by name. Statements appear
with their constructors and with their texts quoted, so an event always takes one line.
-/

namespace RowStore

/-- A named value in a log text. -/
def namedValue (name value : String) : String := " " ++ name ++ "=" ++ value

/-- A constructor with named values, as log texts spell it. -/
def recordText (name : String) (values : List (String × String)) : String :=
  name ++ " \x7b " ++ ", ".intercalate (values.map fun (key, value) => key ++ ": " ++ value) ++
    " \x7d"

/-- A constructor around one value, as log texts spell it. -/
def wrappedText (name value : String) : String := name ++ "(" ++ value ++ ")"

/-- A column in log texts. -/
def Field.logText : Field → String
  | .username => "Username"
  | .email => "Email"

/-- A row error in log texts. -/
def RowError.logText : RowError → String
  | .tooLong field length limit =>
    recordText "FieldTooLong"
      [("field", field.logText), ("len", length.repr), ("max", limit.repr)]
  | .containsNul field => recordText "NulByte" [("field", field.logText)]

/-- A parse error in log texts. -/
def ParseError.logText : ParseError → String
  | .wordCount => "Syntax"
  | .invalidId word => wrappedText "InvalidId" (Text.quoted word)
  | .field error => wrappedText "Field" error.logText

/-- A row in log texts. -/
def Row.logText (row : Row) : String :=
  recordText "Row" [("id", Text.decimal row.id.toInt), ("username", Text.quoted row.username),
    ("email", Text.quoted row.email)]

/-- A statement in log texts. -/
def Statement.logText : Statement → String
  | .insert row => wrappedText "Insert" row.logText
  | .select => "Select"
  | .exit => "MetaExit"
  | .unrecognized text => wrappedText "Unrecognized" (Text.quoted text)
  | .malformed reason => wrappedText "MalformedInsert" reason.logText

namespace Event

/-- The message of the event and its values. -/
def text : Event → String
  | .sessionStarted maxRows => "session started" ++ namedValue "max_rows" maxRows.repr
  | .executing statement rows =>
    "executing" ++ namedValue "statement" statement.logText ++ namedValue "rows" rows.repr
  | .storage (.allocating page) => "allocating page" ++ namedValue "page" page.repr
  | .storage (.wrote page slot) =>
    "wrote slot" ++ namedValue "page" page.repr ++ namedValue "slot" slot.repr
  | .storage (.insertRejected rows) =>
    "insert rejected, table full" ++ namedValue "rows" rows.repr
  | .storage (.scanStopped error row) =>
    "scan stopped early" ++ namedValue "err" error.message ++ namedValue "row" row.repr
  | .endOfInput => "end of input"
  | .sessionEnded rows pages =>
    "session ended" ++ namedValue "rows" rows.repr ++ namedValue "pages" pages.repr

/-- The line of the event in the log. -/
def render (event : Event) : String := event.level.label ++ " " ++ event.text

end Event

end RowStore
