import RowStore.Proofs.Text.Utf8.Ascii
import RowStore.Row.Block

/-!
# Reading back a record

A row that fits its columns is read back from its record unchanged: each column is found
at its offset, and stripping the padding loses nothing because a text that fits contains
no zero byte.
-/

namespace RowStore

/-- A text without zeros has no padding to lose. -/
theorem Bytes.strip_eq_self {bytes : List UInt8} (nonzero : 0 ∉ bytes) :
    Bytes.strip bytes = bytes := by
  have kept : bytes.reverse.dropWhile (· == 0) = bytes.reverse := by
    cases backwards : bytes.reverse with
    | nil => rfl
    | cons last front =>
      have stored : last ∈ bytes := by
        rw [← List.mem_reverse, backwards]
        exact List.mem_cons_self
      have distinct : last ≠ 0 := fun zero => nonzero (zero ▸ stored)
      simp [distinct]
  rw [Bytes.strip, kept, List.reverse_reverse]

/-- A text is encoded with a zero byte only if it contains the padding character. -/
theorem Text.Utf8.zero_mem_encode {text : List Char} : 0 ∈ encode text ↔ '\x00' ∈ text :=
  mem_encode_iff (by decide)

/-- A text passes the check when its bytes fit and none of them is padding. -/
theorem Field.check_eq_ok {field : Field} {text : String} :
    field.check text = .ok () ↔ text.utf8ByteSize ≤ field.width ∧ '\x00' ∉ text.toList := by
  unfold Field.check
  split
  · next wide => simp [Nat.not_le.2 wide]
  · next narrow =>
    split <;> simp_all

/-- A row passes the check when both of its texts do. -/
theorem Row.check_eq_ok {row : Row} :
    row.check = .ok () ↔
      Field.username.check row.username = .ok () ∧ Field.email.check row.email = .ok () := by
  unfold Row.check
  cases Field.username.check row.username <;> simp [bind, Except.bind]

namespace Block

/-- The id stands at the front of a record. -/
theorem slice_id (row : Row) :
    (layOut row).slice Layout.idOffset Layout.idWidth =
      Bytes.littleEndian Layout.idWidth row.id.toBitVec.toNat :=
  List.take_left' (by simp)

/-- The user name stands behind the id. -/
theorem slice_username (row : Row) :
    (layOut row).slice Field.username.offset Field.username.width =
      Bytes.pad Field.username.width (Text.Utf8.encode row.username.toList) := by
  rw [slice, layOut, List.drop_left' (by simp [Field.offset, Layout.userOffset, Layout.idOffset])]
  exact List.take_left' (by simp)

/-- The email address ends the record. -/
theorem slice_email (row : Row) :
    (layOut row).slice Field.email.offset Field.email.width =
      Bytes.pad Field.email.width (Text.Utf8.encode row.email.toList) := by
  simp only [slice, layOut, ← List.append_assoc]
  rw [List.drop_left' (by simp [Field.offset, Field.width, Layout.emailOffset,
    Layout.userOffset, Layout.idOffset])]
  exact List.take_of_length_le (by simp)

/-- The id is read back. -/
theorem id_layOut (row : Row) : (layOut row).id = row.id := by
  have bound : row.id.toBitVec.toNat < Nat.pow 256 Layout.idWidth := row.id.toBitVec.isLt
  rw [id, slice_id, Bytes.ofLittleEndian_littleEndian, Nat.mod_eq_of_lt bound,
    BitVec.ofNat_toNat]
  simp

/-- A text that fits its column is read back. -/
theorem text_eq_of_slice {block : Block} {field : Field} {text : String}
    (stored : block.slice field.offset field.width =
      Bytes.pad field.width (Text.Utf8.encode text.toList))
    (fits : field.check text = .ok ()) : block.text field = text := by
  obtain ⟨narrow, clean⟩ := Field.check_eq_ok.1 fits
  rw [Block.text, stored, Bytes.pad_eq_append (by rwa [Text.Utf8.length_encode_toList]),
    Bytes.strip_append_zeros, Bytes.strip_eq_self (by rwa [Text.Utf8.zero_mem_encode]),
    Text.Utf8.decodeLossy_encode, String.ofList_toList]

/-- A row that fits is read back from its record. -/
theorem decode_layOut {row : Row} (fits : row.check = .ok ()) : (layOut row).decode = row := by
  obtain ⟨username, email⟩ := Row.check_eq_ok.1 fits
  simp [decode, id_layOut, text_eq_of_slice (slice_username row) username,
    text_eq_of_slice (slice_email row) email]

end Block

end RowStore
