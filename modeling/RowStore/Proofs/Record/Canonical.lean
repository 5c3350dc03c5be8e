import Mathlib.Data.List.DropRight
import RowStore.Proofs.Record
import RowStore.Proofs.Text.Utf8.Ascii

/-!
# Canonical records

Every record can be read, but not every record is written. The records that are written are the
canonical ones: in both columns the zeros come last, and the bytes before them are those of a
text. Any other record is read as a row that is refused, or that is written as another record.
-/

namespace RowStore

namespace Text.Utf8

/-- The padding character is read from zero bytes and from no others. -/
theorem Replaced.nul_mem_iff {bytes : List UInt8} {text : List Char}
    (replaced : Replaced bytes text) : '\x00' ∈ text ↔ 0 ∈ bytes :=
  replaced.mem_iff (by decide)

/-- A text ends in the padding character only if the bytes end in zero. -/
theorem Replaced.getLast?_of_nul {bytes : List UInt8} {text : List Char}
    (replaced : Replaced bytes text) (last : text.getLast? = some '\x00') :
    bytes.getLast? = some 0 := by
  induction replaced with
  | nil => cases last
  | character c after ih =>
    rw [List.getLast?_append]
    cases after with
    | nil =>
      obtain rfl : c = '\x00' := by simpa using last
      rfl
    | character | illFormed =>
      rw [List.getLast?_cons_cons] at last
      rw [ih last, Option.some_or]
  | illFormed broken after ih =>
    rw [List.getLast?_append]
    cases after with
    | nil => simp at last
    | character | illFormed =>
      rw [List.getLast?_cons_cons] at last
      rw [ih last, Option.some_or]

end Text.Utf8

namespace Bytes

/-- Behind the stripped bytes there are only zeros. -/
theorem strip_append_replicate (bytes : List UInt8) :
    ∃ count, bytes = strip bytes ++ List.replicate count 0 := by
  refine ⟨(bytes.rtakeWhile (· == 0)).length, ?_⟩
  have zeros : bytes.rtakeWhile (· == 0) =
      List.replicate (bytes.rtakeWhile (· == 0)).length 0 :=
    List.eq_replicate_iff.2 ⟨rfl, fun byte member => by simpa using List.mem_rtakeWhile_imp member⟩
  rw [← zeros]
  exact List.rdropWhile_append_rtakeWhile.symm

/-- Stripped bytes do not end in zero. -/
theorem getLast?_strip (bytes : List UInt8) : (strip bytes).getLast? ≠ some 0 := by
  intro last
  have nonempty : strip bytes ≠ [] := by
    intro empty
    rw [empty] at last
    cases last
  have stopped : ¬((strip bytes).getLast nonempty == 0) = true :=
    List.rdropWhile_last_not (· == 0) bytes nonempty
  rw [List.getLast?_eq_some_getLast nonempty] at last
  simp [Option.some.inj last] at stopped

/-- No zero stands before a byte that is not zero. -/
def ZerosLast (bytes : List UInt8) : Prop :=
  bytes.Pairwise fun early late => early = 0 → late = 0

/-- The zeros come last exactly when the bytes up to the last one that is not zero contain none. -/
theorem zerosLast_iff {bytes : List UInt8} : ZerosLast bytes ↔ 0 ∉ strip bytes := by
  obtain ⟨count, whole⟩ := strip_append_replicate bytes
  constructor
  · intro ordered zero
    rw [ZerosLast, whole, List.pairwise_append] at ordered
    obtain ⟨front, behind, parts⟩ := List.append_of_mem zero
    have last := getLast?_strip bytes
    have within := ordered.1
    rw [parts] at last within
    cases behind using List.reverseRecOn with
    | nil => simp at last
    | append_singleton behind final =>
      have zeros := List.rel_of_pairwise_cons (List.pairwise_append.1 within).2.1
        (List.mem_append_right behind (List.mem_singleton_self final)) rfl
      rw [← List.cons_append, ← List.append_assoc, List.getLast?_concat, zeros] at last
      exact last rfl
  · intro clean
    rw [ZerosLast, whole, List.pairwise_append]
    refine ⟨?_, ?_, ?_⟩
    · exact List.pairwise_of_forall_mem_list fun _ early _ _ zero => absurd (zero ▸ early) clean
    · exact List.pairwise_replicate.2 (.inr fun _ => rfl)
    · intro _ _ late member _
      exact List.eq_of_mem_replicate member

/-- A column as it is written: the zeros come last, and the bytes up to the last one that is not
zero are those of a text. -/
structure Canonical (column : List UInt8) : Prop where
  zerosLast : ZerosLast column
  wellFormed : ∃ text : String, strip column = text.toByteArray.data.toList

/-- A text that passes the check is written as a canonical column. -/
theorem canonical_pad {field : Field} {text : String} (fits : field.check text = .ok ()) :
    Canonical (pad field.width (Text.Utf8.encode text.toList)) := by
  obtain ⟨narrow, clean⟩ := Field.check_eq_ok.1 fits
  have nonzero : 0 ∉ Text.Utf8.encode text.toList := by rwa [Text.Utf8.zero_mem_encode]
  have stripped : strip (pad field.width (Text.Utf8.encode text.toList)) =
      Text.Utf8.encode text.toList := by
    rw [pad_eq_append (by rwa [Text.Utf8.length_encode_toList]), strip_append_zeros,
      strip_eq_self nonzero]
  constructor
  case zerosLast => rwa [zerosLast_iff, stripped]
  case wellFormed => exact ⟨text, by rw [stripped, Text.Utf8.encode_toList]⟩

/-- The text read from a canonical column has the bytes that were read. -/
theorem Canonical.encode_eq {column : List UInt8} (canonical : Canonical column)
    {text : List Char} (replaced : Text.Utf8.Replaced (strip column) text) :
    Text.Utf8.encode text = strip column := by
  obtain ⟨origin, stripped⟩ := canonical.wellFormed
  rw [← Text.Utf8.encode_toList] at stripped
  rw [stripped, Text.Utf8.replaced_iff, Text.Utf8.decodeLossy_encode] at replaced
  rw [stripped, replaced]

/-- Stripped bytes are padded to what they were. -/
theorem pad_strip (bytes : List UInt8) : pad bytes.length (strip bytes) = bytes := by
  obtain ⟨count, whole⟩ := strip_append_replicate bytes
  have length : bytes.length = (strip bytes).length + count := by
    conv => lhs; rw [whole]
    simp
  have zeros : bytes.length - (strip bytes).length = count := by omega
  rw [pad_eq_append (by omega), zeros, ← whole]

/-- Digits below 256 in number give a number below the power. -/
theorem ofLittleEndian_lt (digits : List UInt8) :
    ofLittleEndian digits < Nat.pow 256 digits.length := by
  induction digits with
  | nil => simp [ofLittleEndian]
  | cons digit rest ih =>
    have small := digit.toNat_lt
    have power : Nat.pow 256 (rest.length + 1) = 256 * Nat.pow 256 rest.length := Nat.pow_succ'
    rw [ofLittleEndian, List.length_cons, power]
    omega

/-- Writing a number that was read gives the digits back. -/
theorem littleEndian_ofLittleEndian (digits : List UInt8) :
    littleEndian digits.length (ofLittleEndian digits) = digits := by
  induction digits with
  | nil => rfl
  | cons digit rest ih =>
    have small := digit.toNat_lt
    have low : UInt8.ofNat (digit.toNat + 256 * ofLittleEndian rest) = digit := by
      rw [← UInt8.toNat_inj, UInt8.toNat_ofNat']
      omega
    have high : (digit.toNat + 256 * ofLittleEndian rest) / 256 = ofLittleEndian rest := by omega
    rw [ofLittleEndian, List.length_cons, littleEndian, low, high, ih]

end Bytes

/-- The check refuses a row for its user name, and for its email address only if no user name is
refused. -/
theorem Row.check_eq_error {row : Row} {error : RowError} :
    row.check = .error error ↔ Field.username.check row.username = .error error ∨
      (∀ other, ¬Field.username.check row.username = .error other) ∧
        Field.email.check row.email = .error error := by
  unfold Row.check
  cases Field.username.check row.username with
  | error first => simp [bind, Except.bind]
  | ok => simp [bind, Except.bind]

namespace Block

/-- A record as it is written: both columns are. -/
structure Canonical (block : Block) : Prop where
  username : Bytes.Canonical (block.slice 4 32)
  email : Bytes.Canonical (block.slice 36 255)

/-- A record is its id and its two columns. -/
theorem bytes_eq (block : Block) :
    block.bytes = block.slice 0 4 ++ (block.slice 4 32 ++ block.slice 36 255) := by
  have size : block.bytes.length = 291 := block.length_bytes
  have final : block.slice 36 255 = block.bytes.drop 36 :=
    List.take_of_length_le (by rw [List.length_drop, size])
  have middle : block.slice 4 32 ++ block.bytes.drop 36 = block.bytes.drop 4 := by
    have parts := List.take_append_drop 32 (block.bytes.drop 4)
    rwa [List.drop_drop] at parts
  rw [final, middle, slice, List.drop_zero, List.take_append_drop]

/-- Two records with the same id bytes and columns are one. -/
theorem eq_of_slices {block other : Block} (id : block.slice 0 4 = other.slice 0 4)
    (username : block.slice 4 32 = other.slice 4 32)
    (email : block.slice 36 255 = other.slice 36 255) : block = other := by
  have same : block.bytes = other.bytes := by
    rw [block.bytes_eq, other.bytes_eq, id, username, email]
  cases block
  cases other
  cases same
  rfl

/-- A part of a record within its bounds has its full length. -/
theorem length_slice (block : Block) {offset width : Nat} (within : offset + width ≤ 291) :
    (block.slice offset width).length = width := by
  have size : block.bytes.length = 291 := block.length_bytes
  rw [slice, List.length_take, List.length_drop, size]
  omega

/-- The id that is read is written as the same bytes. -/
theorem littleEndian_id (block : Block) :
    Bytes.littleEndian Layout.idWidth block.id.toBitVec.toNat = block.slice 0 4 := by
  have length : (block.slice 0 4).length = 4 := block.length_slice (by decide)
  have bound := Bytes.ofLittleEndian_lt (block.slice 0 4)
  have number : block.id.toBitVec.toNat = Bytes.ofLittleEndian (block.slice 0 4) := by
    rw [length] at bound
    exact Nat.mod_eq_of_lt bound
  have back := Bytes.littleEndian_ofLittleEndian (block.slice 0 4)
  rwa [length, ← number] at back

/-- The text of a column is what is read from its bytes up to the last one that is not zero. -/
theorem replaced_text (block : Block) (field : Field) :
    Text.Utf8.Replaced (Bytes.strip (block.slice field.offset field.width))
      (block.text field).toList :=
  Text.Utf8.replaced_iff.2 (by rw [text, String.toList_ofList])

/-- A text that was read from a canonical column passes the check. -/
theorem check_text {block : Block} (field : Field)
    (canonical : Bytes.Canonical (block.slice field.offset field.width))
    (length : (block.slice field.offset field.width).length = field.width) :
    field.check (block.text field) = .ok () := by
  have replaced := block.replaced_text field
  obtain ⟨count, whole⟩ := Bytes.strip_append_replicate (block.slice field.offset field.width)
  have longer := congrArg List.length whole
  rw [List.length_append, length] at longer
  rw [Field.check_eq_ok, ← Text.Utf8.length_encode_toList, canonical.encode_eq replaced,
    replaced.nul_mem_iff, ← Bytes.zerosLast_iff]
  exact ⟨by omega, canonical.zerosLast⟩

/-- A canonical column is written again as it was read. -/
theorem pad_text {block : Block} (field : Field)
    (canonical : Bytes.Canonical (block.slice field.offset field.width))
    (length : (block.slice field.offset field.width).length = field.width) :
    Bytes.pad field.width (Text.Utf8.encode (block.text field).toList) =
      block.slice field.offset field.width := by
  have padded := Bytes.pad_strip (block.slice field.offset field.width)
  rwa [length, ← canonical.encode_eq (block.replaced_text field)] at padded

/-- A canonical record is read as a row that is written as that record. -/
theorem Canonical.encode_decode {block : Block} (canonical : block.Canonical) :
    block.decode.encode = .ok block := by
  have userLength : (block.slice 4 32).length = 32 := block.length_slice (by decide)
  have emailLength : (block.slice 36 255).length = 255 := block.length_slice (by decide)
  have fits : block.decode.check = .ok () :=
    Row.check_eq_ok.2 ⟨check_text .username canonical.username userLength,
      check_text .email canonical.email emailLength⟩
  have same : layOut block.decode = block := by
    apply eq_of_slices
    · exact (slice_id block.decode).trans block.littleEndian_id
    · exact (slice_username block.decode).trans
        (pad_text .username canonical.username userLength)
    · exact (slice_email block.decode).trans
        (pad_text .email canonical.email emailLength)
  exact Row.encode_eq_ok_iff_check.2 ⟨fits, same.symm⟩

/-- Only canonical records are written. -/
theorem canonical_of_encode {row : Row} {block : Block} (written : row.encode = .ok block) :
    block.Canonical := by
  obtain ⟨fits, rfl⟩ := Row.encode_eq_ok_iff_check.1 written
  obtain ⟨username, email⟩ := Row.check_eq_ok.1 fits
  constructor
  case username =>
    have column := Bytes.canonical_pad username
    rwa [← slice_username] at column
  case email =>
    have column := Bytes.canonical_pad email
    rwa [← slice_email] at column

/-- Why a column is not written as it is read: the text, with its replacements, is too long, or
it fits but a zero stood before a byte that is not zero. -/
inductive Fault (block : Block) (field : Field) : RowError → Prop where
  | tooLong {text : List Char}
      (replaced : Text.Utf8.Replaced (Bytes.strip (block.slice field.offset field.width)) text)
      (wide : field.width < (Text.Utf8.encode text).length) :
      Fault block field (.tooLong field (Text.Utf8.encode text).length field.width)
  | containsNul {text : List Char}
      (replaced : Text.Utf8.Replaced (Bytes.strip (block.slice field.offset field.width)) text)
      (narrow : (Text.Utf8.encode text).length ≤ field.width)
      (inner : ¬Bytes.ZerosLast (block.slice field.offset field.width)) :
      Fault block field (.containsNul field)

/-- The fault of the first column that has one. -/
def FirstFault (block : Block) (error : RowError) : Prop :=
  block.Fault .username error ∨
    (∀ other, ¬block.Fault .username other) ∧ block.Fault .email error

/-- The check refuses the text of a column for the fault of the column. -/
theorem check_text_eq_error {block : Block} {field : Field} {error : RowError} :
    field.check (block.text field) = .error error ↔ block.Fault field error := by
  have replaced := block.replaced_text field
  have size := Text.Utf8.length_encode_toList (block.text field)
  have inner : '\x00' ∈ (block.text field).toList ↔
      ¬Bytes.ZerosLast (block.slice field.offset field.width) := by
    rw [replaced.nul_mem_iff, Bytes.zerosLast_iff, not_not]
  constructor
  · intro refused
    rw [Field.check] at refused
    split at refused
    · next wide =>
      cases refused
      rw [← size] at wide ⊢
      exact .tooLong replaced wide
    · next narrow =>
      split at refused
      · next contained =>
        cases refused
        exact .containsNul replaced (by omega) (inner.1 contained)
      · cases refused
  · intro fault
    cases fault with
    | tooLong also wide =>
      obtain rfl := (Text.Utf8.replaced_iff.1 also).symm.trans (Text.Utf8.replaced_iff.1 replaced)
      rw [size] at wide ⊢
      rw [Field.check, if_pos wide]
    | containsNul also narrow zero =>
      obtain rfl := (Text.Utf8.replaced_iff.1 also).symm.trans (Text.Utf8.replaced_iff.1 replaced)
      rw [Field.check, if_neg (by omega), if_pos (inner.2 zero)]

/-- The row that is read is refused for the first fault of the record. -/
theorem encode_decode_eq_error {block : Block} {error : RowError} :
    block.decode.encode = .error error ↔ block.FirstFault error := by
  rw [Row.encode_eq_error_iff_check, Row.check_eq_error]
  simp only [FirstFault, ← check_text_eq_error]
  exact Iff.rfl

/-- Every record is read: its id is the one whose two's complement is the first four bytes, low
byte first, and neither text ends in the padding character. The row that is read is written as the
same record exactly when the record is canonical, and the canonical records are those that are
written for some row. The row is refused exactly for the first fault of the record. A record that
is not canonical has a first fault, or it is written as another record, which is read as the same
row and is itself written again. -/
theorem encode_decode_exact (block : Block) :
    twosComplement block.decode.id = block.slice 0 4 ∧
    block.decode.username.toList.getLast? ≠ some '\x00' ∧
    block.decode.email.toList.getLast? ≠ some '\x00' ∧
    (block.decode.encode = .ok block ↔ block.Canonical) ∧
    ((∃ row : Row, row.encode = .ok block) ↔ block.Canonical) ∧
    (∀ error, block.decode.encode = .error error ↔ block.FirstFault error) ∧
    (block.Canonical ∨ (∃ error, block.FirstFault error) ∨
      ∃ other, other ≠ block ∧ block.decode.encode = .ok other ∧ other.decode = block.decode ∧
        other.decode.encode = .ok other) := by
  have unpadded (field : Field) : (block.text field).toList.getLast? ≠ some '\x00' := fun last =>
    Bytes.getLast?_strip _ ((block.replaced_text field).getLast?_of_nul last)
  refine ⟨?_, unpadded .username, unpadded .email, ?_, ?_, fun error => encode_decode_eq_error, ?_⟩
  · rw [← RowStore.littleEndian_id]
    exact block.littleEndian_id
  · exact ⟨canonical_of_encode, Canonical.encode_decode⟩
  · exact ⟨fun ⟨_, written⟩ => canonical_of_encode written,
      fun canonical => ⟨block.decode, canonical.encode_decode⟩⟩
  · cases written : block.decode.encode with
    | error error => exact .inr (.inl ⟨error, encode_decode_eq_error.1 written⟩)
    | ok other =>
      by_cases same : other = block
      · rw [same] at written
        exact .inl (canonical_of_encode written)
      · obtain ⟨fits, laidOut⟩ := Row.encode_eq_ok_iff_check.1 written
        have read : other.decode = block.decode := by rw [laidOut, decode_layOut fits]
        exact .inr (.inr ⟨other, same, rfl, read, by rw [read, written]⟩)

end Block

end RowStore
