import RowStore.Text.Ranges
import RowStore.Text.Shapeless

/-!
# Quoted text

A text between double quotes, on one line and unambiguous: the quote, the backslash and
four controls have short escapes, and any other character without a shape of its own is
written by its number.
-/

namespace RowStore.Text

/-- Whether a character can stand as it is, apart from quote and backslash. -/
def hasShape (c : Char) : Bool := !inRanges shapelessRanges c.toNat

/-- The escape that gives the number of a character, in hexadecimal. -/
def numericEscape (c : Char) : List Char :=
  "\\u\x7b".toList ++ Nat.toDigits 16 c.toNat ++ "\x7d".toList

/-- A character as it stands between quotes. -/
def escape (c : Char) : List Char :=
  if c = '\x00' then "\\0".toList
  else if c = '\t' then "\\t".toList
  else if c = '\n' then "\\n".toList
  else if c = '\r' then "\\r".toList
  else if c = '"' ∨ c = '\\' then ['\\', c]
  else if hasShape c then [c]
  else numericEscape c

/-- A text between quotes. -/
def quoted (text : String) : String :=
  "\"" ++ .ofList (text.toList.flatMap escape) ++ "\""

end RowStore.Text
