import RowStore.Text.Numeral

/-!
# Numerals, by what they are

A numeral is said here as a grammar: at most one sign and then digits, whose value counts each
digit ten times less than the one before it. A count is a numeral that has no minus sign. Reading
accepts exactly the numerals, or exactly the counts, and with a range exactly those whose value is
in it.
-/

namespace RowStore.Text

/-- A text of one or more ASCII digits, with its value. -/
structure Digits (text : List Char) (value : Nat) : Prop where
  nonempty : text ≠ []
  ascii : ∀ c ∈ text, '0' ≤ c ∧ c ≤ '9'
  value_eq : text.foldl (fun value c => 10 * value + (c.toNat - '0'.toNat)) 0 = value

/-- A text of digits behind at most one sign, with its value. -/
inductive Numeral : List Char → Int → Prop where
  | unsigned {text : List Char} {value : Nat} (digits : Digits text value) :
      Numeral text value
  | positive {text : List Char} {value : Nat} (digits : Digits text value) :
      Numeral ('+' :: text) value
  | negative {text : List Char} {value : Nat} (digits : Digits text value) :
      Numeral ('-' :: text) (-value)

/-- A sign is no digit. -/
theorem Digits.not_sign {c : Char} {text : List Char} {value : Nat}
    (digits : Digits (c :: text) value) : c ≠ '+' ∧ c ≠ '-' := by
  obtain ⟨least, -⟩ := digits.ascii c (List.mem_cons_self ..)
  constructor
  · rintro rfl
    exact absurd least (by decide)
  · rintro rfl
    exact absurd least (by decide)

/-- Reading digits accepts exactly the texts of digits. -/
theorem digits?_eq_some {text : List Char} {value : Nat} :
    digits? text = some value ↔ Digits text value := by
  have ascii : text.all Char.isDigit = true ↔ ∀ c ∈ text, '0' ≤ c ∧ c ≤ '9' := by
    rw [List.all_eq_true]
    simp only [Char.isDigit, Bool.and_eq_true, decide_eq_true_eq, ge_iff_le, Char.le_def]
  rw [digits?]
  constructor
  · intro read
    split at read
    · next accepted =>
      obtain ⟨nonempty, digits⟩ := Bool.and_eq_true_iff.1 accepted
      rw [Option.some.injEq, Nat.ofDigitChars_eq_foldl] at read
      exact ⟨by simpa using nonempty, ascii.1 digits, read⟩
    · cases read
  · rintro ⟨nonempty, digits, value_eq⟩
    rw [if_pos (by simp [nonempty, ascii.2 digits]), Nat.ofDigitChars_eq_foldl, value_eq]

/-- Reading an integer accepts exactly the numerals. -/
theorem integer?_eq_some {text : List Char} {value : Int} :
    integer? text = some value ↔ Numeral text value := by
  constructor
  · intro read
    rw [integer?.eq_def] at read
    split at read
    · obtain ⟨magnitude, digits, rfl⟩ := Option.map_eq_some_iff.1 read
      exact .positive (digits?_eq_some.1 digits)
    · obtain ⟨magnitude, digits, rfl⟩ := Option.map_eq_some_iff.1 read
      exact .negative (digits?_eq_some.1 digits)
    · obtain ⟨magnitude, digits, rfl⟩ := Option.map_eq_some_iff.1 read
      exact .unsigned (digits?_eq_some.1 digits)
  · intro numeral
    cases numeral with
    | unsigned digits =>
      have read := digits?_eq_some.2 digits
      rw [integer?.eq_def]
      split
      · exact absurd rfl digits.not_sign.1
      · exact absurd rfl digits.not_sign.2
      · rw [read]
        rfl
    | positive digits => rw [integer?, digits?_eq_some.2 digits]; rfl
    | negative digits => rw [integer?, digits?_eq_some.2 digits]; rfl

/-- A number is printed as digits of its value. -/
theorem digits_repr (number : Nat) : Digits number.repr.toList number :=
  digits?_eq_some.1 (by rw [Nat.toList_repr, digits?_toDigits])

/-- An integer is printed as a numeral of its value. -/
theorem numeral_decimal (number : Int) : Numeral (decimal number).toList number := by
  cases number with
  | ofNat magnitude => exact .unsigned (digits_repr magnitude)
  | negSucc magnitude =>
    have signed : (decimal (.negSucc magnitude)).toList =
        '-' :: (magnitude + 1).repr.toList := by rw [decimal, String.toList_append]; rfl
    rw [signed]
    exact .negative (digits_repr (magnitude + 1))

/-- Zeros in front of digits leave their value as it is. -/
theorem Digits.zeros_append {text : List Char} {value : Nat} (digits : Digits text value)
    (zeros : Nat) : Digits (List.replicate zeros '0' ++ text) value := by
  induction zeros with
  | zero => exact digits
  | succ zeros ih =>
    rw [List.replicate_succ, List.cons_append]
    refine ⟨List.cons_ne_nil _ _, List.forall_mem_cons.2 ⟨by decide, ih.ascii⟩, ?_⟩
    rw [List.foldl_cons]
    exact ih.value_eq

/-- A text of digits behind at most one plus sign, with its value. -/
inductive Count : List Char → Nat → Prop where
  | plain {text : List Char} {value : Nat} (digits : Digits text value) : Count text value
  | positive {text : List Char} {value : Nat} (digits : Digits text value) :
      Count ('+' :: text) value

/-- Reading a numeral without a minus sign accepts exactly the counts. -/
theorem natural?_eq_some {text : List Char} {value : Nat} :
    natural? text = some value ↔ Count text value := by
  constructor
  · intro read
    rw [natural?.eq_def] at read
    split at read
    · exact .positive (digits?_eq_some.1 read)
    · exact .plain (digits?_eq_some.1 read)
  · intro count
    cases count with
    | plain digits =>
      rw [natural?.eq_def]
      split
      · exact absurd rfl digits.not_sign.1
      · exact digits?_eq_some.2 digits
    | positive digits => exact digits?_eq_some.2 digits

/-- A text has one value. -/
theorem Count.unique {text : List Char} {value other : Nat} (count : Count text value)
    (also : Count text other) : value = other := by
  have read := natural?_eq_some.2 count
  rw [natural?_eq_some.2 also] at read
  exact (Option.some.inj read).symm

/-- Reading a count up to a greatest one accepts exactly the counts that are not greater. -/
theorem naturalUpTo?_eq_some {most : Nat} {text : List Char} {value : Nat} :
    naturalUpTo? most text = some value ↔ Count text value ∧ value ≤ most := by
  rw [naturalUpTo?, Option.filter_eq_some_iff, natural?_eq_some, decide_eq_true_iff]

/-- The least and the greatest value that 32 bits hold. -/
theorem int32_bounds :
    Int32.minValue.toInt = -2147483648 ∧ Int32.maxValue.toInt = 2147483647 := by
  decide

/-- Reading a 32-bit integer accepts exactly the numerals of its value. -/
theorem int32?_eq_some {text : List Char} {number : Int32} :
    int32? text = some number ↔ Numeral text number.toInt := by
  rw [int32?, Option.bind_eq_some_iff]
  constructor
  · rintro ⟨value, read, kept⟩
    split at kept
    · next within =>
      obtain rfl := Option.some.inj kept
      have below : value < 2147483648 := by
        have most := within.2
        rw [int32_bounds.2] at most
        omega
      have exact_value : (Int32.ofInt value).toInt = value :=
        Int32.toInt_ofInt_of_le within.1 below
      rw [exact_value]
      exact integer?_eq_some.1 read
    · cases kept
  · intro numeral
    have within : Int32.minValue.toInt ≤ number.toInt ∧ number.toInt ≤ Int32.maxValue.toInt :=
      ⟨number.minValue_le_toInt, number.toInt_le⟩
    refine ⟨number.toInt, integer?_eq_some.2 numeral, ?_⟩
    rw [if_pos within, Int32.ofInt_toInt]

/-- Reading a 32-bit integer refuses a text on which no numeral in range is written. -/
theorem int32?_eq_none {text : List Char} :
    int32? text = none ↔
      ∀ value, Numeral text value → value < -2147483648 ∨ 2147483647 < value := by
  obtain ⟨least, most⟩ := int32_bounds
  rw [int32?, Option.bind_eq_none_iff, least, most]
  constructor
  · intro refused value numeral
    have unfit := refused value (integer?_eq_some.2 numeral)
    split at unfit
    · cases unfit
    · omega
  · intro outside value read
    have past := outside value (integer?_eq_some.1 read)
    rw [if_neg (by omega)]

/-- A zero may carry a minus sign, and the least number has no positive counterpart. -/
example : int32? "-0".toList = some 0 ∧ int32? "-2147483648".toList = some Int32.minValue ∧
    int32? "2147483648".toList = none ∧ int32? "--1".toList = none := by decide

end RowStore.Text
