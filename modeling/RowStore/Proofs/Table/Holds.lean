import RowStore.Proofs.Pages.Contents
import RowStore.Proofs.Record
import RowStore.Table.Scan

/-!
# What a table holds

A table holds a list of rows when its counter is their number, its pages are those that the
rows need, and each row stands at its own page and slot with zeros in every other slot.
Insertion appends a row or changes nothing, and a scan gives the rows back in order.
-/

namespace RowStore

/-- Fourteen rows make a page. -/
theorem Pages.locate_eq (row : Nat) : Pages.locate row = (row / 14, row % 14) := by
  rw [Pages.locate, Layout.rowsPerPage_eq]

namespace Table

/-- The capacity is fourteen rows for every page, as far as a size can count. -/
theorem capacity_eq (table : Table) :
    table.capacity = min (14 * table.pages.maxPages) (UInt64.size - 1) := by
  rw [capacity, Layout.rowsPerPage_eq, Layout.largestSize]

/-- The page of a row below the capacity lies within the limit, also where the capacity is cut
to what a size can count. -/
theorem page_lt_of_lt_capacity {table : Table} {row : Nat} (room : row < table.capacity) :
    row / 14 < table.pages.maxPages := by
  rw [capacity_eq] at room
  omega

/-- A table holds rows, all of which fit their columns, in the order of insertion. -/
structure Holds (table : Table) (rows : List Row) : Prop where
  /-- The counter is the number of rows. -/
  size_eq : table.size = rows.length
  /-- The counter is within the capacity. -/
  size_le : table.size ≤ table.capacity
  /-- No row was cut. -/
  fits : ∀ row ∈ rows, row.check = .ok ()
  /-- No page is missing, and none is there before a row needs it. -/
  count_eq : table.pages.count = (rows.length + 13) / 14
  /-- Each slot has the record of its row, or zeros where no row is. -/
  content_eq : ∀ page slot, slot < 14 → table.pages.content page slot =
    (rows.map Block.layOut)[14 * page + slot]?.getD Block.zero

/-- A new table holds nothing. -/
theorem holds_empty (maxPages : Nat) : (empty maxPages).Holds [] where
  size_eq := rfl
  size_le := Nat.zero_le _
  fits := by simp
  count_eq := rfl
  content_eq := by simp [empty]

variable {table : Table} {rows : List Row}

/-- The record of a row is read at its page and slot. -/
theorem Holds.read_row (holds : table.Holds rows) {place : Nat} (below : place < rows.length) :
    table.pages.read (place / 14) (place % 14) = .ok (Block.layOut rows[place]) := by
  have added : ¬table.pages.count ≤ place / 14 := by
    rw [holds.count_eq]
    omega
  have inside : ¬14 ≤ place % 14 := by omega
  rw [Pages.read_eq, Layout.rowsPerPage_eq, if_neg added, if_neg inside,
    holds.content_eq _ _ (Nat.lt_of_not_le inside), Nat.div_add_mod]
  simp [below]

/-- A full table refuses every row, fitting or not. -/
theorem insert_full (full : table.capacity ≤ table.size) (row : Row) :
    (table.insert row).answer = .error .full ∧ (table.insert row).state = table := by
  simp [insert, full]

/-- A row that does not fit is refused for its fault. -/
theorem insert_unfit (room : table.size < table.capacity) {row : Row} {error : RowError}
    (unfit : row.check = .error error) :
    (table.insert row).answer = .error (.field error) ∧ (table.insert row).state = table := by
  have refused : row.encode = .error error := by rw [Row.encode_eq_map, unfit]; rfl
  simp [insert, Nat.not_le.2 room, refused]

/-- A row that fits is stored at the page and slot of the counter: the pages do not refuse what
the table admits. -/
theorem insert_fit (room : table.size < table.capacity) {row : Row}
    (fits : row.check = .ok ()) :
    (table.insert row).answer = .ok () ∧
      (table.insert row).state =
        ⟨table.pages.stored (table.size / 14) (table.size % 14) (Block.layOut row),
          table.size + 1⟩ := by
  have written : row.encode = .ok (Block.layOut row) := by rw [Row.encode_eq_map, fits]; rfl
  have within := page_lt_of_lt_capacity room
  obtain ⟨outside, -⟩ | ⟨-, past, -⟩ | ⟨-, -, answered, changed⟩ :=
    Pages.write_cases table.pages (table.size / 14) (table.size % 14) (Block.layOut row)
  · rw [Layout.rowsPerPage_eq] at outside
    omega
  · omega
  · simp [insert, Nat.not_le.2 room, written, Pages.locate_eq, answered, changed]

/-- After a fitting row was stored the table holds it behind the others. -/
theorem Holds.stored (holds : table.Holds rows) (room : table.size < table.capacity) {row : Row}
    (fits : row.check = .ok ()) :
    Holds ⟨table.pages.stored (table.size / 14) (table.size % 14) (Block.layOut row),
      table.size + 1⟩ (rows ++ [row]) := by
  have within := page_lt_of_lt_capacity room
  have counted := holds.size_eq
  constructor
  case size_eq => simp [counted]
  case size_le => rwa [capacity_eq, Pages.maxPages_stored, ← capacity_eq]
  case fits =>
    intro stored member
    rcases List.mem_append.1 member with old | new
    · exact holds.fits stored old
    · rwa [List.mem_singleton.1 new]
  case count_eq =>
    rw [Pages.count_stored within, holds.count_eq, List.length_append, List.length_singleton]
    omega
  case content_eq =>
    intro page slot inside
    have slotted : table.size % 14 < Layout.rowsPerPage := by
      rw [Layout.rowsPerPage_eq]
      omega
    rw [Pages.content_stored within slotted, holds.content_eq page slot inside,
      List.map_append, List.getElem?_append, List.length_map]
    by_cases here : page = table.size / 14 ∧ slot = table.size % 14
    · have last : 14 * page + slot - rows.length = 0 := by omega
      have behind : ¬14 * page + slot < rows.length := by omega
      rw [if_pos here]
      simp [last, behind]
    · by_cases before : 14 * page + slot < rows.length
      · simp [here, before]
      · have beyond : 14 * page + slot - rows.length ≠ 0 := by omega
        simp [here, before, beyond]

/-- All that an insertion can do to a table that holds rows: a full table refuses any row, then
a row that does not fit is refused, and both change nothing; any other row is appended. -/
theorem Holds.insert_cases (holds : table.Holds rows) (row : Row) :
    (rows.length = table.capacity ∧
      (table.insert row).answer = .error .full ∧ (table.insert row).state = table) ∨
    (∃ error, rows.length < table.capacity ∧ row.check = .error error ∧
      (table.insert row).answer = .error (.field error) ∧ (table.insert row).state = table) ∨
    (rows.length < table.capacity ∧ row.check = .ok () ∧
      (table.insert row).answer = .ok () ∧ (table.insert row).state.Holds (rows ++ [row]) ∧
      (table.insert row).state.capacity = table.capacity) := by
  have counted := holds.size_eq
  have bounded := holds.size_le
  by_cases full : table.capacity ≤ table.size
  · exact .inl ⟨by omega, insert_full full row⟩
  have room : table.size < table.capacity := Nat.lt_of_not_le full
  have vacant : rows.length < table.capacity := by omega
  cases checked : row.check with
  | error error => exact .inr (.inl ⟨error, vacant, rfl, insert_unfit room checked⟩)
  | ok =>
    obtain ⟨answered, changed⟩ := insert_fit room checked
    refine .inr (.inr ⟨vacant, rfl, answered, ?_, ?_⟩)
    · rw [changed]
      exact holds.stored room checked
    · rw [changed, capacity_eq, capacity_eq, Pages.maxPages_stored]

/-- All that an insertion of a fitting row can do to a table that holds rows: it appends the row
or finds the table full. -/
theorem Holds.insert_fitting (holds : table.Holds rows) {row : Row}
    (fits : row.check = .ok ()) :
    (rows.length = table.capacity ∧
      (table.insert row).answer = .error .full ∧ (table.insert row).state = table) ∨
    (rows.length < table.capacity ∧
      (table.insert row).answer = .ok () ∧ (table.insert row).state.Holds (rows ++ [row]) ∧
      (table.insert row).state.capacity = table.capacity) := by
  obtain full | ⟨error, -, unfit, -⟩ | ⟨room, -, stored⟩ := holds.insert_cases row
  · exact .inl full
  · rw [fits] at unfit
    cases unfit
  · exact .inr ⟨room, stored⟩

end Table

namespace Scan

/-- The next row of a table that holds rows is yielded, and nothing is reported. -/
theorem advance_of_holds {table : Table} {rows : List Row} (holds : table.Holds rows)
    {place : Nat} (below : place < rows.length) :
    advance ⟨table.pages, place, rows.length⟩ =
      ⟨some rows[place], ⟨table.pages, place + 1, rows.length⟩, []⟩ := by
  have running : ¬rows.length ≤ place := Nat.not_le.2 below
  simp only [advance, if_neg running, Pages.locate_eq, holds.read_row below,
    Block.decode_layOut (holds.fits _ (List.getElem_mem below))]

/-- A scan of a table that holds rows yields the rows from its next place on. -/
theorem drain_of_holds {table : Table} {rows : List Row} (holds : table.Holds rows)
    {place : Nat} (within : place ≤ rows.length) :
    drain ⟨table.pages, place, rows.length⟩ =
      ⟨rows.drop place, ⟨table.pages, rows.length, rows.length⟩, []⟩ := by
  induction left : rows.length - place generalizing place with
  | zero =>
    obtain rfl : place = rows.length := by omega
    have ended : advance ⟨table.pages, rows.length, rows.length⟩ =
        ⟨none, ⟨table.pages, rows.length, rows.length⟩, []⟩ := by simp [advance]
    rw [drain]
    split
    · simp [ended]
    · next yielded => simp [ended] at yielded
  | succ left ih =>
    have below : place < rows.length := by omega
    have step := advance_of_holds holds below
    have rest := ih (show place + 1 ≤ rows.length from below) (by omega)
    rw [drain]
    split
    · next yielded => simp [step] at yielded
    · next row yielded =>
      obtain rfl : rows[place] = row := by simpa [step] using yielded
      simp only [step, rest, List.drop_eq_getElem_cons below, List.append_nil]

end Scan

/-- The rows of a table that holds rows are those. -/
theorem Table.Holds.rows_eq {table : Table} {rows : List Row} (holds : table.Holds rows) :
    table.rows = rows := by
  rw [Table.rows, Table.scan, holds.size_eq, Scan.drain_of_holds holds (Nat.zero_le _),
    List.drop_zero]

end RowStore
