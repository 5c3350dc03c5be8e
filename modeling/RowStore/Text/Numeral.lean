/-!
# Decimal numerals

A numeral is an optional sign followed by at least one ASCII digit and nothing else,
with any number of leading zeros. Reading also refuses a value outside its range;
printing writes the fewest digits.
-/

namespace RowStore.Text

/-- The value of a text of one or more ASCII digits. -/
def digits? (text : List Char) : Option Nat :=
  if !text.isEmpty && text.all Char.isDigit then some (Nat.ofDigitChars 10 text 0) else none

/-- The value of an integer numeral, which may carry one sign of either kind. -/
def integer? : List Char → Option Int
  | '+' :: rest => (digits? rest).map Int.ofNat
  | '-' :: rest => (digits? rest).map fun n => - Int.ofNat n
  | text => (digits? text).map Int.ofNat

/-- The value of a numeral without a minus sign. -/
def natural? : List Char → Option Nat
  | '+' :: rest => digits? rest
  | text => digits? text

/-- The value of an integer numeral, if 32 bits can hold it. -/
def int32? (text : List Char) : Option Int32 :=
  (integer? text).bind fun n =>
    if Int32.minValue.toInt ≤ n ∧ n ≤ Int32.maxValue.toInt then some (Int32.ofInt n) else none

/-- The value of an unsigned numeral, if it is at most `most`. -/
def naturalUpTo? (most : Nat) (text : List Char) : Option Nat :=
  (natural? text).filter (· ≤ most)

/-- An integer in decimal, with a minus sign if it is negative. -/
def decimal : Int → String
  | .ofNat n => n.repr
  | .negSucc n => "-" ++ (n + 1).repr

/-- Reading back the digits of a number gives the number. -/
theorem digits?_toDigits (n : Nat) : digits? (Nat.toDigits 10 n) = some n := by
  have all : (Nat.toDigits 10 n).all Char.isDigit = true := by
    rw [List.all_eq_true]
    exact fun c h => Nat.isDigit_of_mem_toDigits (by decide) (by decide) h
  simp [digits?, all, Nat.ofDigitChars_toDigits]

end RowStore.Text
