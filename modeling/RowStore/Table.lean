import RowStore.Pages

/-!
# The table

Rows are numbered in the order of insertion, and the row of a number has a fixed page
and slot. Insertion is refused when the table is full, whatever the row; otherwise the
row must fit its columns. A refused insertion changes nothing.
-/

namespace RowStore

/-- Why an insertion is refused. -/
inductive TableError where
  /-- As many rows are stored as may be. -/
  | full
  /-- A text does not fit its column. -/
  | field (error : RowError)
  /-- The pages refused the record. -/
  | storage (error : StorageError)
  deriving DecidableEq, Repr

namespace TableError

/-- Pages past their limit mean a full table. -/
def ofStorage : StorageError → TableError
  | .pastLimit .. => .full
  | error => .storage error

/-- The report of a table error. -/
def message : TableError → String
  | .full => "Table full"
  | .field error => error.message
  | .storage error => error.message

end TableError

/-- Pages and the number of rows that they hold. -/
structure Table where
  /-- Where records are kept. -/
  pages : Pages
  /-- Rows stored so far. -/
  size : Nat

namespace Table

/-- A table without rows. -/
def empty (maxPages : Nat) : Table := ⟨.empty maxPages, 0⟩

/-- Whether no row is stored. -/
def isEmpty (table : Table) : Bool := table.size == 0

/-- Most rows that may be stored: all slots of all pages, as far as a size can count. -/
def capacity (table : Table) : Nat :=
  min (Layout.rowsPerPage * table.pages.maxPages) Layout.largestSize

/-- Store a row behind the last one. -/
def insert (table : Table) (row : Row) : Reply Table (Except TableError Unit) StorageEvent :=
  if table.capacity ≤ table.size then ⟨.error .full, table, [.insertRejected table.size]⟩
  else
    match row.encode with
    | .error error => ⟨.error (.field error), table, []⟩
    | .ok block =>
      let (page, slot) := Pages.locate table.size
      let stored := table.pages.write page slot block
      match stored.answer with
      | .error error => ⟨.error (.ofStorage error), { table with pages := stored.state },
          stored.events⟩
      | .ok () => ⟨.ok (), ⟨stored.state, table.size + 1⟩, stored.events⟩

end Table

end RowStore
