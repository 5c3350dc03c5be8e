import Mathlib.Data.Prod.Lex
import Mathlib.Data.Set.Function
import Mathlib.Order.Interval.Set.Defs
import RowStore.Proofs.Pages.Growth
import RowStore.Proofs.Table.Holds

/-!
# Addresses of rows

The address of a row is the page and the slot of its number. Two limits bound it: the table counts
rows up to its capacity, which is cut to what a size can count, and the pages are counted up to
their own limit. Every row below the one is within the other, so the pages never refuse what the
table admits. Where no capacity is cut, the addresses are all slots of all pages, each of one row.
-/

namespace RowStore

namespace Pages

/-- An address gives its row back. -/
theorem locate_parts (row : Nat) :
    (locate row).2 < 14 ∧ 14 * (locate row).1 + (locate row).2 = row := by
  rw [locate_eq]
  exact ⟨Nat.mod_lt row (by decide), Nat.div_add_mod row 14⟩

/-- Each slot of each page is the address of a row. -/
theorem locate_address {slot : Nat} (inside : slot < 14) (page : Nat) :
    locate (14 * page + slot) = (page, slot) := by
  rw [locate_eq, Prod.mk.injEq]
  omega

/-- No two rows share an address. -/
theorem locate_injective : Function.Injective locate := by
  intro row other same
  calc
    row = 14 * (locate row).1 + (locate row).2 := (locate_parts row).2.symm
    _ = 14 * (locate other).1 + (locate other).2 := by rw [same]
    _ = other := (locate_parts other).2

/-- A later row has a later address: a later page, or a later slot of the same page. -/
theorem locate_strictMono : StrictMono fun row => toLex (locate row) := by
  intro row other before
  show toLex (locate row) < toLex (locate other)
  rw [locate_eq, locate_eq, Prod.Lex.toLex_lt_toLex]
  show row / 14 < other / 14 ∨ row / 14 = other / 14 ∧ row % 14 < other % 14
  omega

/-- The next row stands in the next slot, or behind the last slot of a page at the start of the
next page. -/
theorem locate_succ (row : Nat) :
    locate (row + 1) =
      if (locate row).2 = 13 then ((locate row).1 + 1, 0)
      else ((locate row).1, (locate row).2 + 1) := by
  rw [locate_eq, locate_eq]
  show ((row + 1) / 14, (row + 1) % 14) =
    if row % 14 = 13 then (row / 14 + 1, 0) else (row / 14, row % 14 + 1)
  by_cases last : row % 14 = 13
  · rw [if_pos last, Prod.mk.injEq]
    omega
  · rw [if_neg last, Prod.mk.injEq]
    omega

/-- The rows that fill a number of pages have the slots of these pages as their addresses. -/
theorem locate_bijOn (maxPages : Nat) :
    Set.BijOn locate (Set.Iio (14 * maxPages))
      {address | address.1 < maxPages ∧ address.2 < 14} := by
  refine ⟨?_, locate_injective.injOn, ?_⟩
  · intro row (below : row < 14 * maxPages)
    have parts := locate_parts row
    show (locate row).1 < maxPages ∧ (locate row).2 < 14
    omega
  · rintro ⟨page, slot⟩ ⟨within, inside⟩
    have below : 14 * page + slot < 14 * maxPages := by
      have : page < maxPages := within
      have : slot < 14 := inside
      omega
    exact ⟨14 * page + slot, below, locate_address inside page⟩

end Pages

namespace Table

/-- The pages accept any record at the address of a row that the table admits, whatever pages
there are. -/
theorem write_of_lt_capacity {table : Table} {place : Nat} (admitted : place < table.capacity)
    (block : Block) :
    (table.pages.write (Pages.locate place).1 (Pages.locate place).2 block).answer = .ok () := by
  have inside : ¬Layout.rowsPerPage ≤ place % 14 := by
    rw [Layout.rowsPerPage_eq]
    omega
  have within : ¬table.pages.maxPages ≤ place / 14 :=
    Nat.not_le.2 (page_lt_of_lt_capacity admitted)
  rw [Pages.locate_eq, Pages.answer_write, if_neg inside, if_neg within]

/-- The answer to an insertion is decided by the counter and by the row alone, whatever the pages
hold. -/
theorem answer_insert_eq (table : Table) (row : Row) :
    (table.insert row).answer =
      if table.capacity ≤ table.size then .error .full
      else match row.check with
        | .error error => .error (.field error)
        | .ok () => .ok () := by
  by_cases full : table.capacity ≤ table.size
  · rw [if_pos full]
    exact (insert_full full row).1
  · have room : table.size < table.capacity := Nat.lt_of_not_le full
    rw [if_neg full]
    cases checked : row.check with
    | error error => exact (insert_unfit room checked).1
    | ok => exact (insert_fit room checked).1

/-- The address of a row below the capacity is a slot of a page within the limit, from which the
number of the row is found without passing what a size can count, and where the pages accept any
record. So an insertion is refused as full exactly when the counter has reached the capacity, also
where that is cut, and never because of the pages. Where the capacity is not cut, the rows below
it have exactly the slots of all pages as their addresses. Addresses grow with the rows, by one
slot, or from the last slot of a page to the start of the next page. -/
theorem addressing_exact (table : Table) :
    let maxPages := table.pages.maxPages
    table.capacity = min (14 * maxPages) (UInt64.size - 1) ∧
    (∀ place < table.capacity, ∃ page slot, Pages.locate place = (page, slot) ∧
      slot < 14 ∧ page < maxPages ∧ 14 * page + slot = place ∧ 14 * page + slot < UInt64.size ∧
      ∀ block, (table.pages.write page slot block).answer = .ok ()) ∧
    (∀ row, ((table.insert row).answer = .error .full ↔ table.capacity ≤ table.size) ∧
      ∀ error, (table.insert row).answer ≠ .error (.storage error)) ∧
    (14 * maxPages < UInt64.size →
      Set.BijOn Pages.locate (Set.Iio table.capacity)
        {address | address.1 < maxPages ∧ address.2 < 14}) ∧
    (StrictMono fun place => toLex (Pages.locate place)) ∧
    ∀ place page slot, Pages.locate place = (page, slot) →
      Pages.locate (place + 1) = if slot = 13 then (page + 1, 0) else (page, slot + 1) := by
  intro maxPages
  have capacity : table.capacity = min (14 * maxPages) (UInt64.size - 1) := table.capacity_eq
  have size : UInt64.size = 18446744073709551616 := rfl
  refine ⟨capacity, ?_, ?_, ?_, Pages.locate_strictMono, ?_⟩
  · intro place admitted
    obtain ⟨inside, whole⟩ := Pages.locate_parts place
    have within : (Pages.locate place).1 < maxPages := by omega
    have counted : 14 * (Pages.locate place).1 + (Pages.locate place).2 < UInt64.size := by omega
    exact ⟨_, _, rfl, inside, within, whole, counted, write_of_lt_capacity admitted⟩
  · intro row
    rw [answer_insert_eq]
    by_cases full : table.capacity ≤ table.size
    · simp [full]
    · rw [if_neg full]
      cases row.check <;> simp [full]
  · intro uncut
    have whole : table.capacity = 14 * maxPages := by omega
    rw [whole]
    exact Pages.locate_bijOn maxPages
  · intro place page slot address
    rw [Pages.locate_succ, address]

/-- With a limit past what a size can count, the last row that is admitted has the first slot of
the last page. -/
example : (empty 1317624576693539402).capacity = 18446744073709551615 ∧
    Pages.locate 18446744073709551614 = (1317624576693539401, 0) := by decide

end Table

end RowStore
