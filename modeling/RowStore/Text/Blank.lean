import RowStore.Text.Ranges

/-!
# Blanks, trimming and words

A blank is a character of the Unicode property `White_Space`. Words are the maximal
runs of other characters; trimming removes the blanks at both ends and nothing else.
-/

namespace RowStore.Text

/-- The characters of the property `White_Space`, as inclusive ranges of scalar values. -/
def blankRanges : List (Nat × Nat) :=
  [(0x09, 0x0D), (0x20, 0x20), (0x85, 0x85), (0xA0, 0xA0), (0x1680, 0x1680),
   (0x2000, 0x200A), (0x2028, 0x2029), (0x202F, 0x202F), (0x205F, 0x205F), (0x3000, 0x3000)]

/-- A character that separates words. -/
def isBlank (c : Char) : Bool := inRanges blankRanges c.toNat

/-- The text without the blanks at its ends. -/
def trim (text : List Char) : List Char :=
  ((text.dropWhile isBlank).reverse.dropWhile isBlank).reverse

/-- The maximal runs of characters that are not blank, in order. -/
def words (text : List Char) : List (List Char) :=
  (text.splitOnP isBlank).filter (! ·.isEmpty)

/-- An empty text has no words. -/
@[simp] theorem words_nil : words [] = [] := rfl

/-- A blank in front adds no word. -/
theorem words_blank_cons {c : Char} (text : List Char) (blank : isBlank c = true) :
    words (c :: text) = words text := by
  simp [words, List.splitOnP_cons_eq_if_modifyHead, blank]

end RowStore.Text
