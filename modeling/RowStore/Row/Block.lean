import RowStore.Bytes
import RowStore.Row

/-!
# Stored records

A block is a row as a page holds it: the id as a two's-complement word, low byte first,
then the two texts in UTF-8, each padded with zeros to the width of its column. Every
block can be read; writing refuses a row that does not fit.
-/

namespace RowStore

/-- The bytes of one record. -/
structure Block where
  /-- Bytes in storage order. -/
  bytes : List UInt8
  /-- A record always has its full size. -/
  length_bytes : bytes.length = Layout.rowSize
  deriving DecidableEq

namespace Block

/-- The block of a slot that was never written. -/
def zero : Block := ⟨List.replicate Layout.rowSize 0, by simp⟩

/-- A block of the given bytes, if they are as many as a record has. -/
def ofBytes? (bytes : List UInt8) : Option Block :=
  if h : bytes.length = Layout.rowSize then some ⟨bytes, h⟩ else none

/-- The bytes of a record from an offset on. -/
def slice (block : Block) (offset width : Nat) : List UInt8 :=
  (block.bytes.drop offset).take width

/-- The layout of a row; a text that is too long for its column is cut. -/
def layOut (row : Row) : Block where
  bytes :=
    Bytes.littleEndian Layout.idWidth row.id.toBitVec.toNat ++
      (Bytes.pad Field.username.width (Text.Utf8.encode row.username.toList) ++
        Bytes.pad Field.email.width (Text.Utf8.encode row.email.toList))
  length_bytes := by simp [Layout.rowSize, Field.width, Nat.add_assoc]

/-- The id that a record holds. -/
def id (block : Block) : Int32 :=
  .ofBitVec (.ofNat 32 (Bytes.ofLittleEndian (block.slice Layout.idOffset Layout.idWidth)))

/-- The text that a column holds; ill-formed parts are replaced. -/
def text (block : Block) (field : Field) : String :=
  .ofList (Text.Utf8.decodeLossy (Bytes.strip (block.slice field.offset field.width)))

/-- The row that a record holds. -/
def decode (block : Block) : Row :=
  ⟨block.id, block.text .username, block.text .email⟩

end Block

/-- The record of a row, if the row fits: nothing is cut. -/
def Row.encode (row : Row) : Except RowError Block := do
  row.check
  return Block.layOut row

end RowStore
