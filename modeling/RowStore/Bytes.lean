/-!
# Fixed-width byte fields

Words are base-256 digits with the low digit first. Texts are padded with zero bytes
up to the width of their field, and lose all trailing zeros when read.
-/

namespace RowStore.Bytes

/-- The lowest `width` base-256 digits of a number, low digit first. -/
def littleEndian : Nat → Nat → List UInt8
  | 0, _ => []
  | width + 1, value => UInt8.ofNat value :: littleEndian width (value / 256)

/-- The number with the given base-256 digits, low digit first. -/
def ofLittleEndian : List UInt8 → Nat
  | [] => 0
  | digit :: rest => digit.toNat + 256 * ofLittleEndian rest

/-- Exactly `width` bytes: zeros behind a shorter text, the front of a longer one. -/
def pad (width : Nat) (bytes : List UInt8) : List UInt8 :=
  (bytes ++ List.replicate width 0).take width

/-- The bytes up to the last one that is not zero. -/
def strip (bytes : List UInt8) : List UInt8 :=
  (bytes.reverse.dropWhile (· == 0)).reverse

/-- A word has as many bytes as asked for. -/
@[simp] theorem length_littleEndian (width value : Nat) :
    (littleEndian width value).length = width := by
  induction width generalizing value with
  | zero => rfl
  | succ width ih => simp [littleEndian, ih]

/-- A padded text fills its field. -/
@[simp] theorem length_pad (width : Nat) (bytes : List UInt8) :
    (pad width bytes).length = width := by
  simp [pad]

/-- Reading a word back gives the number modulo its width. -/
theorem ofLittleEndian_littleEndian (width value : Nat) :
    ofLittleEndian (littleEndian width value) = value % Nat.pow 256 width := by
  induction width generalizing value with
  | zero => simp [littleEndian, ofLittleEndian, Nat.mod_one]
  | succ width ih =>
    simp [littleEndian, ofLittleEndian, ih, Nat.pow_succ', Nat.mod_mul]

/-- A text that fits is padded behind and not cut. -/
theorem pad_eq_append {width : Nat} {bytes : List UInt8} (fits : bytes.length ≤ width) :
    pad width bytes = bytes ++ List.replicate (width - bytes.length) 0 := by
  simp [pad, List.take_append, List.take_of_length_le fits]

/-- Trailing zeros do not change the stripped text. -/
@[simp] theorem strip_append_zeros (bytes : List UInt8) (count : Nat) :
    strip (bytes ++ List.replicate count 0) = strip bytes := by
  simp [strip, List.reverse_append]

end RowStore.Bytes
