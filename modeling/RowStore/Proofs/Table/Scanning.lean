import Mathlib.Data.List.ReduceOption
import Mathlib.Logic.Function.Basic
import RowStore.Proofs.Table.BoundedList

/-!
# Scans call by call

A scan is asked for one row at a time. A scan of a table that holds rows stands in front of the
rows that it has not yielded yet: each call takes the first of them, and when none is left every
further call finds none. It knows their number before each call, and it does not notice whether
other scans of the table are asked in between.
-/

namespace RowStore

namespace Scan

/-- The scan after a number of calls. -/
def after (scan : Scan) : Nat → Scan
  | 0 => scan
  | calls + 1 => scan.advance.state.after calls

/-- What a number of calls answer. -/
def answers (scan : Scan) : Nat → List (Option Row)
  | 0 => []
  | calls + 1 => scan.advance.answer :: scan.advance.state.answers calls

/-- Numbered scans that are called in turns, each by its number: which one was called, and what
it answered. -/
def takeTurns (scans : Nat → Scan) : List Nat → List (Nat × Option Row)
  | [] => []
  | number :: later =>
    (number, (scans number).advance.answer) ::
      takeTurns (Function.update scans number (scans number).advance.state) later

/-- What the scan of a number answered among others. -/
def answersOf (number : Nat) (turns : List (Nat × Option Row)) : List (Option Row) :=
  (turns.filter (·.1 = number)).map (·.2)

/-- A scan that is called in turns with others answers as it does alone. -/
theorem answersOf_takeTurns (scans : Nat → Scan) (turns : List Nat) (number : Nat) :
    answersOf number (takeTurns scans turns) = (scans number).answers (turns.count number) := by
  induction turns generalizing scans with
  | nil => rfl
  | cons turn later ih =>
    have rest := ih (Function.update scans turn (scans turn).advance.state)
    rw [answersOf] at rest
    by_cases mine : turn = number
    · subst mine
      rw [Function.update_self] at rest
      rw [takeTurns, answersOf, List.filter_cons_of_pos (by simp), List.map_cons, rest,
        List.count_cons_self, answers]
    · rw [Function.update_of_ne (Ne.symm mine)] at rest
      rw [takeTurns, answersOf, List.filter_cons_of_neg (by simpa using mine), rest,
        List.count_cons_of_ne mine]

/-- A scan of a table that holds rows stands in front of those from its next place on. -/
structure Ahead (table : Table) (stored : List Row) (scan : Scan) (rows : List Row) : Prop where
  pages_eq : scan.pages = table.pages
  stop_eq : scan.stop = stored.length
  next_le : scan.next ≤ scan.stop
  rows_eq : rows = stored.drop scan.next

section

variable {table : Table} {stored rows : List Row} {scan : Scan}

/-- A new scan stands in front of all rows. -/
theorem ahead_scan (holds : table.Holds stored) : Ahead table stored table.scan stored :=
  ⟨rfl, holds.size_eq, Nat.zero_le _, rfl⟩

/-- A scan knows how many rows are still to come. -/
theorem Ahead.remaining_eq (ahead : Ahead table stored scan rows) :
    scan.remaining = rows.length := by
  rw [ahead.rows_eq, List.length_drop, remaining, ahead.stop_eq]

/-- A call takes the first row that is still to come. -/
theorem Ahead.advance (holds : table.Holds stored) (ahead : Ahead table stored scan rows) :
    scan.advance.answer = rows.head? ∧ scan.advance.events = [] ∧
      Ahead table stored scan.advance.state rows.tail := by
  obtain ⟨pages, next, stop⟩ := scan
  obtain ⟨rfl, rfl, within, rfl⟩ := ahead
  rcases Nat.lt_or_eq_of_le within with below | ended
  · rw [advance_of_holds holds below, List.head?_drop, List.tail_drop]
    exact ⟨(List.getElem?_eq_getElem below).symm, rfl, rfl, rfl, below, rfl⟩
  · simp only at ended
    subst ended
    have finished : Scan.advance ⟨table.pages, stored.length, stored.length⟩ =
        ⟨none, ⟨table.pages, stored.length, stored.length⟩, []⟩ := by simp [Scan.advance]
    rw [finished, List.drop_length]
    exact ⟨rfl, rfl, rfl, rfl, within, by simp⟩

/-- After some calls a scan stands in front of the rows behind as many. -/
theorem Ahead.after (holds : table.Holds stored) (ahead : Ahead table stored scan rows)
    (calls : Nat) : Ahead table stored (scan.after calls) (rows.drop calls) := by
  induction calls generalizing scan rows with
  | zero => exact ahead
  | succ calls ih =>
    rw [Scan.after, ← List.drop_tail]
    exact ih (ahead.advance holds).2.2

/-- Calls answer with the rows still to come in order, and then with none. -/
theorem Ahead.answers_eq (holds : table.Holds stored) (ahead : Ahead table stored scan rows)
    (calls : Nat) : scan.answers calls = (List.range calls).map (rows[·]?) := by
  induction calls generalizing scan rows with
  | zero => rfl
  | succ calls ih =>
    obtain ⟨answered, -, next⟩ := ahead.advance holds
    rw [answers, answered, ih next, List.range_succ_eq_map, List.map_cons, List.map_map,
      List.head?_eq_getElem?]
    simp [Function.comp_def]

/-- The rows that calls have yielded are the first of those that were to come. -/
theorem Ahead.yielded_eq (holds : table.Holds stored) (ahead : Ahead table stored scan rows)
    (calls : Nat) : (scan.answers calls).reduceOption = rows.take calls := by
  induction calls generalizing scan rows with
  | zero => rfl
  | succ calls ih =>
    obtain ⟨answered, -, next⟩ := ahead.advance holds
    have later := ih next
    rw [answers, answered]
    cases rows with
    | nil =>
      rw [List.head?_nil, List.reduceOption_cons_of_none, later, List.tail_nil, List.take_nil,
        List.take_nil]
    | cons row rows =>
      rw [List.head?_cons, List.reduceOption_cons_of_some, later, List.tail_cons,
        List.take_succ_cons]

/-- The row at a place is the one among the rows still to come. -/
theorem Ahead.nth?_eq (holds : table.Holds stored) (ahead : Ahead table stored scan rows)
    (place : Nat) : scan.nth? place = rows[place]? := by
  induction place generalizing scan rows with
  | zero => rw [nth?, (ahead.advance holds).1, List.head?_eq_getElem?]
  | succ place ih =>
    obtain ⟨answered, -, next⟩ := ahead.advance holds
    rw [nth?, answered, ih next]
    cases rows with
    | nil => rfl
    | cons row later => rfl

end

end Scan

/-- Whatever was inserted into a new table, a new scan of it has never passed its end. Before each
call it knows exactly how many rows are left besides those that it has yielded. The call answers
with the row of its own number, or with none behind the last row, and never reports a row that
cannot be reached. Scans of the table that are called in turns each answer so, whatever the turns.
Passing over rows gives the row at the place, and the last row is the last one stored. -/
theorem Table.scan_exact (maxPages : Nat) (offered : List Row) :
    let table := (empty maxPages).insertAll offered
    let rows := (empty maxPages).accepted offered
    (∀ calls,
      let scan := table.scan.after calls
      let yielded := (table.scan.answers calls).reduceOption
      scan.next ≤ scan.stop ∧ scan.remaining + yielded.length = rows.length ∧
        scan.bounds = (scan.remaining, some scan.remaining) ∧
        scan.advance.answer = rows[calls]? ∧ scan.advance.events = []) ∧
    (∀ turns number,
      Scan.answersOf number (Scan.takeTurns (fun _ => table.scan) turns) =
        (List.range (turns.count number)).map (rows[·]?)) ∧
    (∀ place, table.scan.nth? place = rows[place]?) ∧ table.last? = rows.getLast? := by
  intro table rows
  obtain ⟨holds, -⟩ : table.Holds rows ∧ _ := (holds_empty maxPages).insertAll offered
  have ahead := Scan.ahead_scan holds
  refine ⟨fun calls => ?_, fun turns number => ?_, ahead.nth?_eq holds, ?_⟩
  · intro scan yielded
    have behind := ahead.after holds calls
    obtain ⟨answered, silent, -⟩ := behind.advance holds
    have counted : scan.remaining + yielded.length = rows.length := by
      rw [behind.remaining_eq, show yielded = rows.take calls from ahead.yielded_eq holds calls,
        Nat.add_comm, ← List.length_append, List.take_append_drop]
    rw [List.head?_drop] at answered
    exact ⟨behind.next_le, counted, rfl, answered, silent⟩
  · rw [Scan.answersOf_takeTurns, ahead.answers_eq holds]
  · rw [last?, holds.rows_eq]

end RowStore
