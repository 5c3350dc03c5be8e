import RowStore.Table

/-!
# Scans

A scan yields the rows of a table in the order of insertion, one at a time, and knows
how many are left. Once it has ended it stays ended. A record that cannot be reached
ends the scan early and is reported.
-/

namespace RowStore

/-- A reader of the rows with numbers from `next` up to `stop`. -/
structure Scan where
  /-- The pages that are read. -/
  pages : Pages
  /-- Number of the next row. -/
  next : Nat
  /-- Number at which the scan ends. -/
  stop : Nat

/-- A new scan starts at the first row. -/
def Table.scan (table : Table) : Scan := ⟨table.pages, 0, table.size⟩

namespace Scan

/-- Rows still to come. -/
def remaining (scan : Scan) : Nat := scan.stop - scan.next

/-- The least and, since it is known, the greatest number of rows still to come. -/
def bounds (scan : Scan) : Nat × Option Nat := (scan.remaining, some scan.remaining)

/-- Yield the next row. -/
def advance (scan : Scan) : Reply Scan (Option Row) StorageEvent :=
  if scan.stop ≤ scan.next then ⟨none, scan, []⟩
  else
    let (page, slot) := Pages.locate scan.next
    match scan.pages.read page slot with
    | .error error =>
      ⟨none, { scan with next := scan.stop }, [.scanStopped error scan.next]⟩
    | .ok block => ⟨some block.decode, { scan with next := scan.next + 1 }, []⟩

/-- A row that is yielded is no longer to come. -/
theorem remaining_advance_lt {scan : Scan} (yielded : scan.advance.answer.isSome) :
    scan.advance.state.remaining < scan.remaining := by
  unfold advance at yielded ⊢
  by_cases ended : scan.stop ≤ scan.next
  · simp [ended] at yielded
  · simp only [ended, if_false] at yielded ⊢
    split at yielded <;> simp_all [remaining]
    omega

/-- Yield every row still to come, until the scan ends. -/
def drain (scan : Scan) : Reply Scan (List Row) StorageEvent :=
  match yielded : scan.advance.answer with
  | none => ⟨[], scan.advance.state, scan.advance.events⟩
  | some row =>
    have : scan.advance.state.remaining < scan.remaining :=
      remaining_advance_lt (by simp [yielded])
    let rest := scan.advance.state.drain
    ⟨row :: rest.answer, rest.state, scan.advance.events ++ rest.events⟩
termination_by scan.remaining

/-- The row at a place, counted from the next one; the rows before it are passed over. -/
def nth? (scan : Scan) : Nat → Option Row
  | 0 => scan.advance.answer
  | place + 1 =>
    match scan.advance.answer with
    | none => none
    | some _ => scan.advance.state.nth? place

end Scan

/-- Every stored row, in the order of insertion. -/
def Table.rows (table : Table) : List Row := table.scan.drain.answer

/-- The row stored last. -/
def Table.last? (table : Table) : Option Row := table.rows.getLast?

end RowStore
