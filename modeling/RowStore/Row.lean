import RowStore.Layout
import RowStore.Text.Numeral
import RowStore.Text.Utf8

/-!
# Rows

A row has an id and two texts. A text fits its column when its UTF-8 bytes do and no
character is NUL, which the stored form reserves for padding. Checks go in a fixed
order, so a row that breaks several rules always reports the same one.
-/

namespace RowStore

/-- The text columns of a row. -/
inductive Field where
  | username
  | email
  deriving DecidableEq, Repr

namespace Field

/-- Bytes the column offers. -/
def width : Field → Nat
  | .username => Layout.userWidth
  | .email => Layout.emailWidth

/-- Place of the column in a record. -/
def offset : Field → Nat
  | .username => Layout.userOffset
  | .email => Layout.emailOffset

/-- The column as messages name it. -/
def name : Field → String
  | .username => "username"
  | .email => "email"

end Field

/-- Why a text does not fit its column. -/
inductive RowError where
  /-- The text takes `length` bytes and the column offers `limit`. -/
  | tooLong (field : Field) (length limit : Nat)
  /-- The text contains the padding character. -/
  | containsNul (field : Field)
  deriving DecidableEq, Repr

/-- The report of a row error. -/
def RowError.message : RowError → String
  | .tooLong field _ limit => field.name ++ " is longer than " ++ limit.repr ++ " bytes"
  | .containsNul field => field.name ++ " contains a NUL byte"

/-- Width is checked before padding characters are looked for. -/
def Field.check (field : Field) (text : String) : Except RowError Unit :=
  if field.width < text.utf8ByteSize then
    .error (.tooLong field text.utf8ByteSize field.width)
  else if '\x00' ∈ text.toList then .error (.containsNul field)
  else .ok ()

/-- One row: its texts are not bound to fit their columns. -/
structure Row where
  /-- Identifier, which need not be unique. -/
  id : Int32
  /-- User name. -/
  username : String
  /-- Email address. -/
  email : String
  deriving DecidableEq, Repr

namespace Row

/-- The user name is checked before the email address. -/
def check (row : Row) : Except RowError Unit := do
  Field.username.check row.username
  Field.email.check row.email

/-- A row whose texts fit their columns. -/
def make (id : Int32) (username email : String) : Except RowError Row := do
  let row : Row := ⟨id, username, email⟩
  row.check
  return row

/-- A row is made only if its texts fit their columns. -/
theorem check_of_make {id : Int32} {username email : String} {row : Row}
    (made : make id username email = .ok row) : row.check = .ok () := by
  cases checked : check ⟨id, username, email⟩ with
  | error error => simp [make, checked, bind, Except.bind] at made
  | ok =>
    have same : (⟨id, username, email⟩ : Row) = row := by
      simpa [make, checked, bind, Except.bind, pure, Except.pure] using made
    rw [← same, checked]

/-- The row as answers show it; texts appear as they are, without quotes. -/
def display (row : Row) : String :=
  "(" ++ Text.decimal row.id.toInt ++ ", " ++ row.username ++ ", " ++ row.email ++ ")"

end Row

end RowStore
