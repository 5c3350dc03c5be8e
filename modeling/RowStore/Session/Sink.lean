/-!
# Sinks

A sink accepts bytes until its room is used up. A write that does not fit leaves its
front behind, and writing nothing always succeeds.
-/

namespace RowStore

/-- Where output goes: everything written so far, and how many more bytes are accepted. -/
structure Sink where
  /-- Bytes accepted, in order. -/
  written : Array UInt8 := #[]
  /-- Bytes that are still accepted; without a number, all. -/
  room : Option Nat

/-- Write bytes: those for which there is room are accepted, and the answer says whether
all were. -/
def Sink.write (sink : Sink) (bytes : List UInt8) : Sink × Bool :=
  match sink.room with
  | none => (⟨sink.written ++ bytes, none⟩, true)
  | some room =>
    (⟨sink.written ++ bytes.take room, some (room - bytes.length)⟩, bytes.length ≤ room)

end RowStore
