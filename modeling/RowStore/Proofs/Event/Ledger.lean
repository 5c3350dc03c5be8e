import RowStore.Event
import RowStore.Proofs.Statement.Reports

/-!
# The log as an account

The events that a session reports are an account of its table: they tell which pages were added
and which rows stored, in order, and how many rows there were before each statement. The account
is kept from event to event, so each entry is said to be right by the entries before it.
-/

namespace RowStore

namespace Event

/-- The page and slot that the event says were written. -/
def written? : Event → Option (Nat × Nat)
  | .storage (.wrote page slot) => some (page, slot)
  | _ => none

/-- The page that the event says is added. -/
def allocated? : Event → Option Nat
  | .storage (.allocating page) => some page
  | _ => none

/-- The statement that the event says is carried out. -/
def executed? : Event → Option Statement
  | .executing statement _ => some statement
  | _ => none

/-- The number of rows of the full table that the event says refused one. -/
def rejected? : Event → Option Nat
  | .storage (.insertRejected rows) => some rows
  | _ => none

/-- An event is right behind the events before it: a statement is reported with as many rows as
were written, and a page is reported directly before the first row on it is, and only there. -/
structure Accounted (before : List Event) (event : Event) : Prop where
  counted : ∀ statement rows, event = .executing statement rows →
    rows = (before.filterMap written?).length
  placed : ∀ page, before.getLast? = some (.storage (.allocating page)) ↔
    ∃ slot, event = .storage (.wrote page slot) ∧ ∀ other, .storage (.wrote page other) ∉ before

/-- Each event is right behind those before it. -/
def AllAccounted (events : List Event) : Prop :=
  ∀ before event behind, events = before ++ event :: behind → Accounted before event

/-- One event more has to be right behind all others. -/
theorem allAccounted_concat {events : List Event} {event : Event} :
    AllAccounted (events ++ [event]) ↔ AllAccounted events ∧ Accounted events event := by
  constructor
  · intro all
    constructor
    · intro before other behind split
      exact all before other (behind ++ [event]) (by simp [split])
    · exact all events event [] rfl
  · rintro ⟨all, last⟩ before other behind split
    rcases List.eq_nil_or_concat behind with rfl | ⟨between, final, rfl⟩
    · obtain ⟨rfl, rfl⟩ : events = before ∧ event = other := by simpa using split
      exact last
    · have shorter : events = before ++ other :: between := by
        rw [List.concat_eq_append, ← List.cons_append, ← List.append_assoc] at split
        exact (List.append_inj' split rfl).1
      exact all before other between shorter

end Event

open Event

/-- The events so far are an account of a table in which so many rows were stored. -/
structure Ledger (stored : Nat) (events : List Event) : Prop where
  written_eq : events.filterMap written? =
    (List.range stored).map fun row => (row / 14, row % 14)
  allocated_eq : events.filterMap allocated? = List.range ((stored + 13) / 14)
  accounted : AllAccounted events
  /-- A page that was reported last would still wait for its row. -/
  settled : ∀ page, events.getLast? ≠ some (.storage (.allocating page))
  calm : ∀ event ∈ events, event.level ≠ .warn ∧ event.level ≠ .error

namespace Ledger

variable {stored : Nat} {events : List Event}

/-- As many rows were written as are stored. -/
theorem length_written (ledger : Ledger stored events) :
    (events.filterMap written?).length = stored := by
  rw [ledger.written_eq, List.length_map, List.length_range]

/-- A place was written when it is the place of one of the rows stored. -/
theorem mem_iff (ledger : Ledger stored events) {page slot : Nat} :
    .storage (.wrote page slot) ∈ events ↔
      ∃ row < stored, row / 14 = page ∧ row % 14 = slot := by
  have among : .storage (.wrote page slot) ∈ events ↔
      (page, slot) ∈ events.filterMap written? := by
    rw [List.mem_filterMap]
    constructor
    · intro member
      exact ⟨_, member, rfl⟩
    · rintro ⟨event, member, said⟩
      rw [written?.eq_def] at said
      split at said
      · cases said
        exact member
      · cases said
  rw [among, ledger.written_eq]
  simp

/-- Nothing has happened before the first report. -/
theorem first (capacity : Nat) : Ledger 0 [.sessionStarted capacity] where
  written_eq := rfl
  allocated_eq := rfl
  accounted := by
    intro before event behind split
    obtain ⟨rfl, rfl, rfl⟩ : before = [] ∧ event = .sessionStarted capacity ∧ behind = [] := by
      simpa using List.singleton_eq_append_iff.1 split
    constructor
    case counted => simp
    case placed => simp
  settled := by simp
  calm := by simp [level]

/-- An event that speaks of no page and no row continues the account, where a statement comes with
the number of rows stored. -/
theorem concat (ledger : Ledger stored events) {event : Event} (noRow : event.written? = none)
    (noPage : event.allocated? = none)
    (counted : ∀ statement rows, event = .executing statement rows → rows = stored)
    (calm : event.level ≠ .warn ∧ event.level ≠ .error) : Ledger stored (events ++ [event]) := by
  constructor
  case written_eq => simpa [noRow] using ledger.written_eq
  case allocated_eq => simpa [noPage] using ledger.allocated_eq
  case accounted =>
    refine allAccounted_concat.2 ⟨ledger.accounted, ?_, fun page => ?_⟩
    · intro statement rows same
      rw [counted statement rows same, ledger.length_written]
    · refine iff_of_false (ledger.settled page) ?_
      rintro ⟨slot, rfl, -⟩
      cases noRow
  case settled =>
    intro page last
    rw [List.getLast?_concat] at last
    obtain rfl := Option.some.inj last
    cases noPage
  case calm => exact List.forall_mem_append.2 ⟨ledger.calm, List.forall_mem_singleton.2 calm⟩

/-- A row that begins no page is reported by its place. -/
theorem within_page (ledger : Ledger stored events) (begun : stored % 14 ≠ 0) :
    Ledger (stored + 1) (events ++ [.storage (.wrote (stored / 14) (stored % 14))]) := by
  constructor
  case written_eq =>
    rw [List.filterMap_append, ledger.written_eq, List.range_succ, List.map_append]
    rfl
  case allocated_eq =>
    have pages : (stored + 1 + 13) / 14 = (stored + 13) / 14 := by omega
    rw [List.filterMap_append, ledger.allocated_eq, pages]
    exact List.append_nil _
  case accounted =>
    refine allAccounted_concat.2 ⟨ledger.accounted, by simp, fun page => ?_⟩
    refine iff_of_false (ledger.settled page) ?_
    rintro ⟨slot, same, absent⟩
    obtain ⟨rfl, rfl⟩ : stored / 14 = page ∧ stored % 14 = slot := by simpa using same
    -- The row before stands on the same page.
    exact absent ((stored - 1) % 14) (ledger.mem_iff.2 ⟨stored - 1, by omega, by omega, rfl⟩)
  case settled => simp
  case calm => exact List.forall_mem_append.2 ⟨ledger.calm, by simp [level]⟩

/-- A row that begins a page is reported by its place, and its page before that. -/
theorem new_page (ledger : Ledger stored events) (begins : stored % 14 = 0) :
    Ledger (stored + 1) (events ++ [.storage (.allocating (stored / 14))] ++
      [.storage (.wrote (stored / 14) (stored % 14))]) := by
  constructor
  case written_eq =>
    rw [List.filterMap_append, List.filterMap_append, ledger.written_eq, List.range_succ,
      List.map_append, List.append_assoc]
    rfl
  case allocated_eq =>
    have pages : (stored + 1 + 13) / 14 = (stored + 13) / 14 + 1 := by omega
    have page : (stored + 13) / 14 = stored / 14 := by omega
    rw [List.filterMap_append, List.filterMap_append, ledger.allocated_eq, pages,
      List.range_succ, page]
    exact List.append_nil _
  case accounted =>
    refine allAccounted_concat.2 ⟨allAccounted_concat.2 ⟨ledger.accounted, ?_⟩, ?_⟩
    · refine ⟨by simp, fun page => iff_of_false (ledger.settled page) ?_⟩
      rintro ⟨slot, same, -⟩
      cases same
    · refine ⟨by simp, fun page => ?_⟩
      rw [List.getLast?_concat]
      constructor
      · intro last
        obtain rfl : stored / 14 = page := by simpa using last
        refine ⟨stored % 14, rfl, fun other member => ?_⟩
        obtain ⟨row, below, same, -⟩ := ledger.mem_iff.1 (by simpa using member)
        omega
      · rintro ⟨slot, same, -⟩
        obtain ⟨rfl, -⟩ : stored / 14 = page ∧ stored % 14 = slot := by simpa using same
        rfl
  case settled => simp
  case calm =>
    refine List.forall_mem_append.2 ⟨List.forall_mem_append.2 ⟨ledger.calm, ?_⟩, ?_⟩
    · simp [level]
    · simp [level]

/-- What is reported of a row that is stored continues the account. -/
theorem storing (ledger : Ledger stored events) :
    Ledger (stored + 1) (events ++ (StorageEvent.storing stored).map Event.storage) := by
  by_cases begins : stored % 14 = 0
  · have page := ledger.new_page begins
    rw [StorageEvent.storing, if_pos begins]
    rwa [List.append_assoc] at page
  · rw [StorageEvent.storing, if_neg begins]
    exact ledger.within_page begins

end Ledger

end RowStore
