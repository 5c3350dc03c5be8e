/-!
# Layout of rows and pages

Every size and offset of the store follows from the widths of the three columns and
the size of a page. Sizes are natural numbers; `largestSize` bounds the row count.
-/

namespace RowStore.Layout

/-- Widest user name, in bytes. -/
def userWidth : Nat := 32

/-- Widest email address, in bytes. -/
def emailWidth : Nat := 255

/-- Bytes of an id. -/
def idWidth : Nat := 4

/-- The id stands first in a record. -/
def idOffset : Nat := 0

/-- The user name follows the id. -/
def userOffset : Nat := idOffset + idWidth

/-- The email address follows the user name. -/
def emailOffset : Nat := userOffset + userWidth

/-- Bytes of a whole record. -/
def rowSize : Nat := idWidth + userWidth + emailWidth

/-- Bytes of a page. -/
def pageSize : Nat := 4096

/-- Whole records that fit in a page. -/
def rowsPerPage : Nat := pageSize / rowSize

/-- Pages a table may hold when no limit is given. -/
def defaultMaxPages : Nat := 100

/-- Rows a table may hold when no limit is given. -/
def defaultMaxRows : Nat := rowsPerPage * defaultMaxPages

/-- Largest count that a size can express. -/
def largestSize : Nat := UInt64.size - 1

/-- A record takes 291 bytes, so a page holds fourteen. -/
theorem rowsPerPage_eq : rowsPerPage = 14 := by decide

end RowStore.Layout
