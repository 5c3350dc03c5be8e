import RowStore.Row.Block.RoundTrip

/-!
# Records of rows

A row has a record exactly when it breaks no rule, and otherwise the first rule that it
breaks is reported. The record is described byte by byte, without the writer: the id as a
residue modulo 2³², and each text as the core library stores it, with zeros behind.
-/

namespace RowStore

/-- The rules that a text breaks, in the order of the checks. -/
def Field.faults (field : Field) (text : String) : List RowError :=
  (if field.width < text.utf8ByteSize then [.tooLong field text.utf8ByteSize field.width]
    else []) ++
    if '\x00' ∈ text.toList then [.containsNul field] else []

/-- The rules that a row breaks, in the order of the checks. -/
def Row.faults (row : Row) : List RowError :=
  Field.username.faults row.username ++ Field.email.faults row.email

/-- A check finds the first fault of a text. -/
theorem Field.check_eq_head? (field : Field) (text : String) :
    field.check text = ((field.faults text).head?.elim (.ok ()) .error) := by
  unfold Field.check Field.faults
  by_cases wide : field.width < text.utf8ByteSize
  · simp [wide]
  · by_cases clean : '\x00' ∈ text.toList
    · simp [wide, clean]
    · simp [wide, clean]

/-- A check finds the first fault of a row: the email address counts only behind a faultless
user name. -/
theorem Row.check_eq_head? (row : Row) :
    row.check = (row.faults.head?.elim (.ok ()) .error) := by
  simp only [Row.check, Row.faults, Field.check_eq_head?, List.head?_append]
  cases (Field.username.faults row.username).head? with
  | none => rfl
  | some error => rfl

/-- Writing a row checks it and then lays it out. -/
theorem Row.encode_eq_map (row : Row) : row.encode = row.check.map fun _ => Block.layOut row := by
  unfold Row.encode
  cases row.check with
  | ok => rfl
  | error error => rfl

/-- Writing a row gives its layout when the check passes, and no other record. -/
theorem Row.encode_eq_ok_iff_check {row : Row} {block : Block} :
    row.encode = .ok block ↔ row.check = .ok () ∧ block = Block.layOut row := by
  rw [Row.encode_eq_map]
  cases row.check with
  | ok => simp [Except.map, eq_comm]
  | error error => simp [Except.map]

/-- Writing a row refuses what the check refuses. -/
theorem Row.encode_eq_error_iff_check {row : Row} {error : RowError} :
    row.encode = .error error ↔ row.check = .error error := by
  rw [Row.encode_eq_map]
  cases row.check with
  | ok => simp [Except.map]
  | error first => simp [Except.map]

/-- Writing a row refuses the first fault and otherwise lays the row out. -/
theorem Row.encode_eq_head? (row : Row) :
    row.encode = (row.faults.head?.elim (.ok (Block.layOut row)) .error) := by
  rw [Row.encode_eq_map, Row.check_eq_head?]
  cases row.faults.head? with
  | none => rfl
  | some error => rfl

/-- A text has no fault when it fits its column and contains no padding character. -/
theorem Field.faults_eq_nil {field : Field} {text : String} :
    field.faults text = [] ↔ text.utf8ByteSize ≤ field.width ∧ '\x00' ∉ text.toList := by
  unfold Field.faults
  by_cases wide : field.width < text.utf8ByteSize
  · simp [wide, Nat.not_le.2 wide]
  · simp [wide, Nat.not_lt.1 wide]

/-- A row that is written has no fault, and its record is its layout. -/
theorem Row.encode_eq_ok {row : Row} {block : Block} :
    row.encode = .ok block ↔ row.faults = [] ∧ block = Block.layOut row := by
  rw [Row.encode_eq_head?]
  cases faults : row.faults with
  | nil => simp [eq_comm]
  | cons error later => simp

/-- A row that is refused has a first fault, and that one is reported. -/
theorem Row.encode_eq_error {row : Row} {error : RowError} :
    row.encode = .error error ↔ row.faults.head? = some error := by
  rw [Row.encode_eq_head?]
  cases row.faults with
  | nil => simp
  | cons first later => simp

/-- The four bytes of an id in two's complement: the digits of its residue modulo 2³², low
digit first. -/
def twosComplement (id : Int32) : List UInt8 :=
  (List.range 4).map fun place => UInt8.ofNat ((id.toInt % 0x100000000).toNat >>> (8 * place))

/-- The word that is stored for an id is the residue of the id. -/
theorem littleEndian_id (id : Int32) :
    Bytes.littleEndian Layout.idWidth id.toBitVec.toNat = twosComplement id := by
  have residue : id.toBitVec.toNat = (id.toInt % 0x100000000).toNat := by
    have same := BitVec.toNat_ofInt (n := 32) id.toInt
    rwa [← Int32.toInt_toBitVec, BitVec.ofInt_toInt] at same
  rw [residue]
  simp [Layout.idWidth, Bytes.littleEndian, twosComplement, List.range, List.range.loop,
    Nat.div_div_eq_div_mul, Nat.shiftRight_eq_div_pow]

/-- Negative ids count down from the greatest word. -/
example : twosComplement (-2) = [0xFE, 0xFF, 0xFF, 0xFF] := by decide

/-- A record as documented: 291 bytes, the id in two's complement with the low byte first in
the bytes from 0 to 4, the user name in those from 4 to 36 and the email address in those from
36 to 291, each text in UTF-8 with zeros behind. -/
structure Block.LaidOut (block : Block) (row : Row) : Prop where
  length : block.bytes.length = 291
  id : block.slice 0 4 = twosComplement row.id
  username : block.slice 4 32 = row.username.toByteArray.data.toList ++
    List.replicate (32 - row.username.utf8ByteSize) 0
  email : block.slice 36 255 = row.email.toByteArray.data.toList ++
    List.replicate (255 - row.email.utf8ByteSize) 0

/-- A text that fits its column is stored whole, with zeros behind. -/
theorem Bytes.pad_encode {width : Nat} {text : String} (fits : text.utf8ByteSize ≤ width) :
    Bytes.pad width (Text.Utf8.encode text.toList) =
      text.toByteArray.data.toList ++ List.replicate (width - text.utf8ByteSize) 0 := by
  rw [Bytes.pad_eq_append (by rwa [Text.Utf8.length_encode_toList]),
    Text.Utf8.length_encode_toList, Text.Utf8.encode_toList]

/-- The layout of a row without faults is the documented one. -/
theorem Block.laidOut_layOut {row : Row} (faultless : row.faults = []) :
    (Block.layOut row).LaidOut row := by
  obtain ⟨username, email⟩ := List.append_eq_nil_iff.1 faultless
  obtain ⟨userFits, -⟩ := Field.faults_eq_nil.1 username
  obtain ⟨emailFits, -⟩ := Field.faults_eq_nil.1 email
  constructor
  case length => exact (Block.layOut row).length_bytes
  case id => exact (Block.slice_id row).trans (littleEndian_id row.id)
  case username => exact (Block.slice_username row).trans (Bytes.pad_encode userFits)
  case email => exact (Block.slice_email row).trans (Bytes.pad_encode emailFits)

/-- A record that is written has the documented layout and is read back as the row. A row is
written exactly when its texts have at most 32 and 255 bytes and no padding character, and a
row that is not written is refused for the first rule that it breaks. -/
theorem Row.encode_exact (row : Row) :
    (∀ block, row.encode = .ok block → block.decode = row ∧ block.LaidOut row) ∧
    ((∃ block, row.encode = .ok block) ↔
      row.username.utf8ByteSize ≤ 32 ∧ row.email.utf8ByteSize ≤ 255 ∧
        '\x00' ∉ row.username.toList ∧ '\x00' ∉ row.email.toList) ∧
    ∀ error, row.encode = .error error ↔ row.faults.head? = some error := by
  refine ⟨fun block written => ?_, ?_, fun error => Row.encode_eq_error⟩
  · obtain ⟨faultless, rfl⟩ := Row.encode_eq_ok.1 written
    have passed : row.check = .ok () := by rw [Row.check_eq_head?, faultless]; rfl
    exact ⟨Block.decode_layOut passed, Block.laidOut_layOut faultless⟩
  · have written : (∃ block, row.encode = .ok block) ↔ row.faults = [] := by
      simp [Row.encode_eq_ok]
    rw [written, Row.faults, List.append_eq_nil_iff, Field.faults_eq_nil, Field.faults_eq_nil]
    simp only [Field.width, Layout.userWidth, Layout.emailWidth]
    constructor
    · rintro ⟨⟨userFits, userClean⟩, emailFits, emailClean⟩
      exact ⟨userFits, emailFits, userClean, emailClean⟩
    · rintro ⟨userFits, emailFits, userClean, emailClean⟩
      exact ⟨⟨userFits, userClean⟩, emailFits, emailClean⟩

end RowStore
