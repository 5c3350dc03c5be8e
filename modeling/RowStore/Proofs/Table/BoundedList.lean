import RowStore.Proofs.Table.Holds

/-!
# A table as a bounded list

Insertions in any order, of rows that fit and rows that do not, leave a table that holds
exactly the rows whose insertion succeeded. Each answer is decided by the number of earlier
successes and by the row itself; the pages never refuse what the table admits.
-/

namespace RowStore.Table

/-- The table after insertions in order, refused ones included. -/
def insertAll (table : Table) (offered : List Row) : Table :=
  offered.foldl (fun table row => (table.insert row).state) table

/-- The rows, among those offered in order, whose insertion succeeds. -/
def accepted : Table → List Row → List Row
  | _, [] => []
  | table, row :: rest =>
    match (table.insert row).answer with
    | .ok () => row :: (table.insert row).state.accepted rest
    | .error _ => (table.insert row).state.accepted rest

/-- Insertions in order append exactly the accepted rows and keep the capacity. -/
theorem Holds.insertAll {table : Table} {rows : List Row} (holds : table.Holds rows)
    (offered : List Row) :
    (table.insertAll offered).Holds (rows ++ table.accepted offered) ∧
      (table.insertAll offered).capacity = table.capacity := by
  induction offered generalizing table rows with
  | nil => simpa [Table.insertAll, accepted] using holds
  | cons row rest ih =>
    have unfolded : table.insertAll (row :: rest) = (table.insert row).state.insertAll rest := rfl
    rw [unfolded, accepted]
    obtain ⟨-, refused, kept⟩ | ⟨error, -, -, refused, kept⟩ |
        ⟨-, -, stored, extended, capacity⟩ := holds.insert_cases row
    · simp only [refused, kept]
      exact ih holds
    · simp only [refused, kept]
      exact ih holds
    · simp only [stored]
      obtain ⟨held, sameCapacity⟩ := ih extended
      rw [List.append_assoc, List.singleton_append] at held
      exact ⟨held, sameCapacity.trans capacity⟩

/-- The answer of a table that holds rows is decided by their number and by the new row, and the
counter grows by one with each success, within the capacity. -/
theorem Holds.answer_insert {table : Table} {rows : List Row} (holds : table.Holds rows)
    (row : Row) :
    ((table.insert row).answer = .error .full ↔ rows.length = table.capacity) ∧
    (∀ error, (table.insert row).answer = .error (.field error) ↔
      rows.length ≠ table.capacity ∧ row.check = .error error) ∧
    ((table.insert row).answer = .ok () ↔
      rows.length ≠ table.capacity ∧ row.check = .ok ()) ∧
    (∀ error, (table.insert row).answer ≠ .error (.storage error)) ∧
    ((table.insert row).answer = .ok () →
      (table.insert row).state.size = table.size + 1 ∧ table.size + 1 ≤ table.capacity) := by
  obtain ⟨full, refused, -⟩ | ⟨error, room, unfit, refused, -⟩ |
      ⟨room, fits, succeeded, extended, -⟩ := holds.insert_cases row
  · simp [refused, full]
  · simp [refused, unfit, Nat.ne_of_lt room]
  · have counted := holds.size_eq
    have grown : (table.insert row).state.size = table.size + 1 := by
      rw [extended.size_eq, counted, List.length_append, List.length_singleton]
    have within : table.size + 1 ≤ table.capacity := by omega
    simp [succeeded, fits, Nat.ne_of_lt room, grown, within]

/-- After any insertions into a new table, the next one is refused as full exactly when the
successes before it have used up the capacity, otherwise for the fault of its row, and succeeds
in all other cases; the pages never refuse it, and the counter stays within what a size can
count. A scan gives exactly the rows whose insertion succeeded, in order, and the counter is
their number. -/
theorem insert_insertAll (maxPages : Nat) (offered : List Row) :
    let table := (empty maxPages).insertAll offered
    let stored := (empty maxPages).accepted offered
    let most := min (14 * maxPages) (UInt64.size - 1)
    (∀ row,
      ((table.insert row).answer = .error .full ↔ stored.length = most) ∧
      (∀ error, (table.insert row).answer = .error (.field error) ↔
        stored.length ≠ most ∧ row.check = .error error) ∧
      ((table.insert row).answer = .ok () ↔ stored.length ≠ most ∧ row.check = .ok ()) ∧
      (∀ error, (table.insert row).answer ≠ .error (.storage error)) ∧
      ((table.insert row).answer = .ok () →
        (table.insert row).state.size = table.size + 1 ∧ table.size + 1 < UInt64.size)) ∧
    table.rows = stored ∧ table.size = stored.length ∧
      table.isEmpty = decide (stored.length = 0) ∧ table.capacity = most := by
  intro table stored most
  obtain ⟨holds, sameCapacity⟩ : table.Holds stored ∧ table.capacity = (empty maxPages).capacity :=
    (holds_empty maxPages).insertAll offered
  have capacity : table.capacity = most := sameCapacity.trans (capacity_eq (empty maxPages))
  have counted : table.size = stored.length := holds.size_eq
  refine ⟨fun row => ?_, holds.rows_eq, counted, ?_, capacity⟩
  · obtain ⟨full, unfit, succeeded, unrefused, grown⟩ := holds.answer_insert row
    rw [capacity] at full unfit succeeded grown
    refine ⟨full, unfit, succeeded, unrefused, fun success => ?_⟩
    obtain ⟨next, within⟩ := grown success
    have counted : table.size + 1 ≤ UInt64.size - 1 :=
      Nat.le_trans within (Nat.min_le_right _ _)
    exact ⟨next, Nat.lt_of_le_sub_one (by decide) counted⟩
  · rw [isEmpty, counted]
    rfl

end RowStore.Table
