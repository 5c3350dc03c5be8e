import Mathlib.Algebra.Order.Floor.Div
import RowStore.Proofs.Table.BoundedList

/-!
# How a table represents its rows

The pages of a table are determined by the rows that were stored. There are as many pages as the
rows need, each row stands in the slot of its number as the record that was written for it, and
the slots behind the last row hold zeros. Insertions of any rows lead only to such tables, and a
refused one changes nothing.
-/

namespace RowStore.Table

/-- An insertion into any table is refused and changes nothing, or stores the record of a row
that fits. -/
theorem insert_refused_or_stored (table : Table) (row : Row) :
    (∃ error, (table.insert row).answer = .error error ∧ (table.insert row).state = table) ∨
    (table.size < table.capacity ∧ (table.insert row).answer = .ok () ∧
      (table.insert row).state =
        ⟨table.pages.stored (table.size / 14) (table.size % 14) (Block.layOut row),
          table.size + 1⟩) := by
  by_cases full : table.capacity ≤ table.size
  · exact .inl ⟨_, insert_full full row⟩
  have room : table.size < table.capacity := Nat.lt_of_not_le full
  cases checked : row.check with
  | error error => exact .inl ⟨_, insert_unfit room checked⟩
  | ok => exact .inr ⟨room, insert_fit room checked⟩

/-- An insertion that does not succeed changes nothing, whatever the table. -/
theorem insert_unchanged (table : Table) {row : Row}
    (refused : (table.insert row).answer ≠ .ok ()) : (table.insert row).state = table := by
  obtain ⟨-, -, kept⟩ | ⟨-, stored, -⟩ := table.insert_refused_or_stored row
  · exact kept
  · exact absurd stored refused

/-- No insertion changes the page limit. -/
theorem maxPages_insert (table : Table) (row : Row) :
    (table.insert row).state.pages.maxPages = table.pages.maxPages := by
  obtain ⟨-, -, kept⟩ | ⟨-, -, changed⟩ := table.insert_refused_or_stored row
  · rw [kept]
  · rw [changed, Pages.maxPages_stored]

/-- No insertions change the page limit. -/
theorem maxPages_insertAll (table : Table) (offered : List Row) :
    (table.insertAll offered).pages.maxPages = table.pages.maxPages := by
  induction offered generalizing table with
  | nil => rfl
  | cons row rest ih => exact (ih (table.insert row).state).trans (table.maxPages_insert row)

variable {table : Table}

/-- A table with a page limit, as the rows that it stores determine it. -/
structure Represents (table : Table) (maxPages : Nat) (rows : List Row) : Prop where
  /-- The limit stays what it was. -/
  maxPages_eq : table.pages.maxPages = maxPages
  /-- The counter is the number of rows. -/
  size_eq : table.size = rows.length
  /-- All slots of all pages bound the counter, as far as a size can count. -/
  size_le : table.size ≤ min (14 * maxPages) (UInt64.size - 1)
  /-- The pages are as many as the rows need, so none is added before its first row. -/
  count_eq : table.pages.count = table.size ⌈/⌉ 14
  /-- The pages are within the limit. -/
  count_le : table.pages.count ≤ maxPages
  /-- Each row stands at its page and slot as the record that was written for it. -/
  record : ∀ place row, rows[place]? = some row → ∃ block, row.encode = .ok block ∧
    table.pages.slot? (place / 14) (place % 14) = some block
  /-- The other slots of the last page hold zeros. -/
  vacant : ∀ page slot, page + 1 = table.pages.count → slot < 14 →
    table.size ≤ 14 * page + slot →
    ∃ block, table.pages.slot? page slot = some block ∧ block.bytes = List.replicate 291 0

/-- A table that holds rows represents them. -/
theorem Holds.represents {rows : List Row} (holds : table.Holds rows) :
    table.Represents table.pages.maxPages rows := by
  have counted := holds.size_eq
  have bounded := holds.size_le
  have pages := holds.count_eq
  rw [capacity_eq] at bounded
  constructor
  case maxPages_eq => rfl
  case size_eq => exact counted
  case size_le => exact bounded
  case count_eq =>
    rw [pages, counted, Nat.ceilDiv_eq_add_pred_div, Nat.add_sub_assoc (by decide)]
  case count_le => omega
  case record =>
    intro place row found
    obtain ⟨below, rfl⟩ := List.getElem?_eq_some_iff.1 found
    have fits := holds.fits rows[place] (List.getElem_mem below)
    exact ⟨Block.layOut rows[place], Row.encode_eq_ok_iff_check.2 ⟨fits, rfl⟩,
      Pages.read_eq_ok.1 (holds.read_row below)⟩
  case vacant =>
    intro page slot last inside behind
    have added : page < table.pages.count ∧ slot < Layout.rowsPerPage := by
      rw [Layout.rowsPerPage_eq]
      omega
    refine ⟨Block.zero, ?_, rfl⟩
    rw [Pages.slot?_eq, if_pos added, holds.content_eq page slot inside,
      List.getElem?_eq_none (by rw [List.length_map]; omega), Option.getD_none]

/-- Any insertions into a new table lead to a table that represents exactly the rows whose
insertion succeeded, in order. There a further insertion succeeds or leaves the pages and
their records, the page limit and the counter as they were. -/
theorem represents_insertAll (maxPages : Nat) (offered : List Row) :
    let table := (empty maxPages).insertAll offered
    table.Represents maxPages ((empty maxPages).accepted offered) ∧
      ∀ row, (table.insert row).answer = .ok () ∨ (table.insert row).state = table := by
  intro table
  obtain ⟨holds, -⟩ : table.Holds ((empty maxPages).accepted offered) ∧ _ :=
    (holds_empty maxPages).insertAll offered
  have represents := holds.represents
  rw [maxPages_insertAll] at represents
  exact ⟨represents, fun row => or_iff_not_imp_left.2 table.insert_unchanged⟩

end RowStore.Table
