import RowStore.Text.Utf8

/-!
# Reading back what was written in UTF-8

The bytes of a character are read as that character from any place between two sequences,
so the bytes of a text are read as that text. The value of a character bounds the bytes of
its sequence; the narrowed second ranges hold because no character lies among the
surrogates or past the last plane.
-/

namespace RowStore.Text.Utf8

/-- A two-byte sequence begins with a byte of its own range. -/
theorem lead?_two : ∀ high < 32, 2 ≤ high →
    lead? (UInt8.ofNat (high + 192)) = some (high, [trailing]) := by decide

/-- The second byte of three is narrowed at overlong forms and at surrogates. -/
def secondOfThree (high : Nat) : ByteRange :=
  if high = 0 then ⟨0xA0, 0xBF⟩ else if high = 13 then ⟨0x80, 0x9F⟩ else trailing

/-- The second byte of four is narrowed at overlong forms and at the end of the last plane. -/
def secondOfFour (high : Nat) : ByteRange :=
  if high = 0 then ⟨0x90, 0xBF⟩ else if high = 4 then ⟨0x80, 0x8F⟩ else trailing

/-- Six bits lie in the second range of three unless they are overlong or a surrogate's. -/
theorem secondOfThree_spans {high second : Nat} (bound : second < 64)
    (notOverlong : high = 0 → 32 ≤ second) (notSurrogate : high = 13 → second < 32) :
    (secondOfThree high).low.toNat ≤ second + 128 ∧
      second + 128 ≤ (secondOfThree high).high.toNat := by
  unfold secondOfThree
  split
  · show 160 ≤ second + 128 ∧ second + 128 ≤ 191
    omega
  split
  · show 128 ≤ second + 128 ∧ second + 128 ≤ 159
    omega
  · show 128 ≤ second + 128 ∧ second + 128 ≤ 191
    omega

/-- Six bits lie in the second range of four unless they are overlong or past the last plane. -/
theorem secondOfFour_spans {high second : Nat} (bound : second < 64)
    (notOverlong : high = 0 → 16 ≤ second) (inLastPlane : high = 4 → second < 16) :
    (secondOfFour high).low.toNat ≤ second + 128 ∧
      second + 128 ≤ (secondOfFour high).high.toNat := by
  unfold secondOfFour
  split
  · show 144 ≤ second + 128 ∧ second + 128 ≤ 191
    omega
  split
  · show 128 ≤ second + 128 ∧ second + 128 ≤ 143
    omega
  · show 128 ≤ second + 128 ∧ second + 128 ≤ 191
    omega

/-- A three-byte sequence begins with a byte of its own range. -/
theorem lead?_three : ∀ high < 16,
    lead? (UInt8.ofNat (high + 224)) = some (high, [secondOfThree high, trailing]) := by decide

/-- A four-byte sequence begins with a byte of its own range. -/
theorem lead?_four : ∀ high < 5,
    lead? (UInt8.ofNat (high + 240)) = some (high, [secondOfFour high, trailing, trailing]) := by
  decide

/-- A byte within the range expected next adds six bits to the value. -/
theorem scanFrom_within {value low : Nat} {next : ByteRange} {later : List ByteRange}
    {rest : List UInt8} (bound : low < 64) (above : next.low.toNat ≤ low + 128)
    (below : low + 128 ≤ next.high.toNat) :
    scanFrom (.within value next later) (UInt8.ofNat (low + 128) :: rest) =
      (resume (value * 64 + low) later).1 ++ scanFrom (resume (value * 64 + low) later).2 rest := by
  have number : (UInt8.ofNat (low + 128)).toNat = low + 128 := by
    rw [UInt8.toNat_ofNat', Nat.mod_eq_of_lt (by omega)]
  have admitted : next.admits (UInt8.ofNat (low + 128)) = true := by
    simp only [ByteRange.admits, UInt8.le_iff_toNat_le, number, Bool.and_eq_true,
      decide_eq_true_eq]
    exact ⟨above, below⟩
  simp only [scanFrom, step, admitted, if_true, number, Nat.add_sub_cancel]

/-- Reading the bytes of a character gives the character. -/
theorem scanFrom_encodeChar (c : Char) (rest : List UInt8) :
    scanFrom .idle (String.utf8EncodeChar c ++ rest) = some c :: scanFrom .idle rest := by
  have valid := c.valid
  have value : Char.ofNat c.val.toNat = c := Char.ofNat_toNat c
  have anyLow : trailing.low.toNat = 128 := rfl
  have anyHigh : trailing.high.toNat = 191 := rfl
  simp only [String.utf8EncodeChar]
  generalize hv : c.val.toNat = v at *
  simp only [UInt32.isValidChar, hv, Nat.isValidChar] at valid
  split
  · next one =>
    simp [scanFrom, step, begin, lead?, resume, Nat.mod_eq_of_lt (show v < 256 by omega),
      Nat.lt_of_le_of_lt one (show 127 < 128 by decide), value]
  split
  · next two =>
    rw [show v / 64 % 32 + 192 = v / 64 + 192 by omega]
    simp only [List.cons_append, scanFrom.eq_2 .idle, step, begin,
      lead?_two _ (show v / 64 < 32 by omega) (by omega), resume, List.nil_append]
    rw [scanFrom_within (by omega) (by omega) (by omega),
      show v / 64 * 64 + v % 64 = v by omega]
    simp [resume, value]
  split
  · next three =>
    obtain ⟨above, below⟩ : (secondOfThree (v / 4096)).low.toNat ≤ v / 64 % 64 + 128 ∧
        v / 64 % 64 + 128 ≤ (secondOfThree (v / 4096)).high.toNat :=
      secondOfThree_spans (by omega) (by omega) (by omega)
    rw [show v / 4096 % 16 + 224 = v / 4096 + 224 by omega]
    simp only [List.cons_append, scanFrom.eq_2 .idle, step, begin,
      lead?_three _ (show v / 4096 < 16 by omega), resume, List.nil_append]
    rw [scanFrom_within (by omega) above below]
    simp only [resume, List.nil_append]
    rw [scanFrom_within (by omega) (by omega) (by omega),
      show (v / 4096 * 64 + v / 64 % 64) * 64 + v % 64 = v by omega]
    simp [resume, value]
  · next four =>
    obtain ⟨above, below⟩ : (secondOfFour (v / 262144)).low.toNat ≤ v / 4096 % 64 + 128 ∧
        v / 4096 % 64 + 128 ≤ (secondOfFour (v / 262144)).high.toNat :=
      secondOfFour_spans (by omega) (by omega) (by omega)
    rw [show v / 262144 % 8 + 240 = v / 262144 + 240 by omega]
    simp only [List.cons_append, scanFrom.eq_2 .idle, step, begin,
      lead?_four _ (show v / 262144 < 5 by omega), resume, List.nil_append]
    rw [scanFrom_within (by omega) above below]
    simp only [resume, List.nil_append]
    rw [scanFrom_within (by omega) (by omega) (by omega)]
    simp only [resume, List.nil_append]
    rw [scanFrom_within (by omega) (by omega) (by omega),
      show ((v / 262144 * 64 + v / 4096 % 64) * 64 + v / 64 % 64) * 64 + v % 64 = v by omega]
    simp [resume, value]

/-- Reading the bytes of a text gives its characters, whatever follows. -/
theorem scan_encode_append (text : List Char) (rest : List UInt8) :
    scan (encode text ++ rest) = text.map some ++ scan rest := by
  induction text with
  | nil => rfl
  | cons c text ih =>
    simp only [encode, scan, List.flatMap_cons, List.append_assoc, List.map_cons,
      List.cons_append] at ih ⊢
    rw [scanFrom_encodeChar, ih]

/-- The bytes of a text are read as its characters, and no part is ill-formed. -/
theorem scan_encode (text : List Char) : scan (encode text) = text.map some := by
  simpa using scan_encode_append text []

/-- Lenient reading changes nothing of what was written. -/
theorem decodeLossy_encode (text : List Char) : decodeLossy (encode text) = text := by
  simp [decodeLossy, scan_encode, Function.comp_def]

/-- Strict reading accepts what was written. -/
theorem decode?_encode (text : List Char) : decode? (encode text) = some text := by
  simp [decode?, isWellFormed, scan_encode, decodeLossy_encode]

end RowStore.Text.Utf8
