/-!
# UTF-8

A text is written as the encodings of its characters. Bytes are read one at a time:
the first byte of a sequence fixes the range of every byte after it, so the longest
beginning of a sequence that no character has is known as soon as a byte falls outside
its range. Each such ill-formed part counts once, and lenient reading replaces it by
U+FFFD; strict reading refuses it.
-/

namespace RowStore.Text.Utf8

/-- The bytes of a text. -/
def encode (text : List Char) : List UInt8 := text.flatMap String.utf8EncodeChar

/-- Inclusive bounds on one byte. -/
structure ByteRange where
  /-- Least byte admitted. -/
  low : UInt8
  /-- Greatest byte admitted. -/
  high : UInt8
  deriving DecidableEq, Repr

/-- Whether a byte lies within the bounds. -/
def ByteRange.admits (range : ByteRange) (byte : UInt8) : Bool :=
  range.low ≤ byte && byte ≤ range.high

/-- Every byte that continues a sequence. -/
def trailing : ByteRange := ⟨0x80, 0xBF⟩

/-- What a first byte contributes to the character, and the range of each byte to follow.
The narrowed second ranges leave out overlong forms, surrogates and values past U+10FFFF. -/
def lead? (byte : UInt8) : Option (Nat × List ByteRange) :=
  let value := byte.toNat
  if value < 0x80 then some (value, [])
  else if value < 0xC2 then none
  else if value < 0xE0 then some (value - 0xC0, [trailing])
  else if value = 0xE0 then some (0, [⟨0xA0, 0xBF⟩, trailing])
  else if value = 0xED then some (0x0D, [⟨0x80, 0x9F⟩, trailing])
  else if value < 0xF0 then some (value - 0xE0, [trailing, trailing])
  else if value = 0xF0 then some (0, [⟨0x90, 0xBF⟩, trailing, trailing])
  else if value < 0xF4 then some (value - 0xF0, [trailing, trailing, trailing])
  else if value = 0xF4 then some (4, [⟨0x80, 0x8F⟩, trailing, trailing])
  else none

/-- Where reading stands between two bytes. -/
inductive State where
  /-- Between two sequences. -/
  | idle
  /-- Within a sequence: the value so far, the range of the next byte and those after it. -/
  | within (value : Nat) (next : ByteRange) (later : List ByteRange)
  deriving DecidableEq, Repr

/-- Go on with a value, complete when no byte is still to come. -/
def resume (value : Nat) : List ByteRange → List (Option Char) × State
  | [] => ([some (Char.ofNat value)], .idle)
  | next :: later => ([], .within value next later)

/-- Take a byte as the first of a sequence. -/
def begin (byte : UInt8) : List (Option Char) × State :=
  match lead? byte with
  | none => ([none], .idle)
  | some (value, following) => resume value following

/-- Take the next byte: the characters it completes, `none` for each ill-formed part. -/
def step : State → UInt8 → List (Option Char) × State
  | .idle, byte => begin byte
  | .within value next later, byte =>
    if next.admits byte then resume (value * 64 + (byte.toNat - 0x80)) later
    else ((begin byte).1.cons none, (begin byte).2)

/-- An unfinished sequence at the end is ill-formed. -/
def finish : State → List (Option Char)
  | .idle => []
  | .within .. => [none]

/-- Read bytes from a state on. -/
def scanFrom (state : State) : List UInt8 → List (Option Char)
  | [] => finish state
  | byte :: rest => (step state byte).1 ++ scanFrom (step state byte).2 rest

/-- The characters of a byte string, `none` for each maximal ill-formed part. -/
def scan (bytes : List UInt8) : List (Option Char) := scanFrom .idle bytes

/-- The character that stands for an ill-formed part. -/
def replacement : Char := '\uFFFD'

/-- Lenient reading: the replacement character for each maximal ill-formed part. -/
def decodeLossy (bytes : List UInt8) : List Char := (scan bytes).map (·.getD replacement)

/-- Whether every part of a byte string is well-formed. -/
def isWellFormed (bytes : List UInt8) : Bool := (scan bytes).all Option.isSome

/-- Strict reading: nothing unless every part is well-formed. -/
def decode? (bytes : List UInt8) : Option (List Char) :=
  if isWellFormed bytes then some (decodeLossy bytes) else none

/-- No bytes, no characters. -/
@[simp] theorem scan_nil : scan [] = [] := rfl

/-- Encodings concatenate. -/
theorem encode_append (left right : List Char) :
    encode (left ++ right) = encode left ++ encode right := by
  simp [encode]

/-- The bytes of a text are those that the core library stores for it. -/
theorem encode_toList (text : String) : encode text.toList = text.toByteArray.data.toList := by
  have stored : text.toByteArray = text.toList.utf8Encode := by
    conv => lhs; rw [← String.ofList_toList (s := text)]
    exact String.toByteArray_ofList
  simp [stored, encode, List.utf8Encode]

/-- The encoding of a text has as many bytes as the text counts. -/
theorem length_encode_toList (text : String) :
    (encode text.toList).length = text.utf8ByteSize := by
  rw [encode_toList, Array.length_toList]
  exact String.size_toByteArray

end RowStore.Text.Utf8
