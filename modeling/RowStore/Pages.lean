import RowStore.Reply
import RowStore.Row.Block

/-!
# Pages

Records live in pages of a fixed number of slots, and pages are numbered from zero
without gaps. Pages are only ever added: an operation that addresses a page first adds
it and every page before it, within the limit of the store. A refused operation leaves
the store as it was.
-/

namespace RowStore

/-- The slots of one page. -/
abbrev Page := Vector Block Layout.rowsPerPage

/-- A page whose slots were never written. -/
def Page.blank : Page := Vector.replicate Layout.rowsPerPage Block.zero

/-- Why the pages refuse an operation. -/
inductive StorageError where
  /-- The page lies past the limit. -/
  | pastLimit (page maxPages : Nat)
  /-- The page was never added. -/
  | notAllocated (page : Nat)
  /-- No page has such a slot. -/
  | noSuchSlot (slot rowsPerPage : Nat)
  deriving DecidableEq, Repr

/-- The report of a storage error. -/
def StorageError.message : StorageError → String
  | .pastLimit .. => "Table full"
  | .notAllocated page => "page " ++ page.repr ++ " has not been allocated"
  | .noSuchSlot slot rowsPerPage =>
    "slot " ++ slot.repr ++ " is out of range, a page holds " ++ rowsPerPage.repr ++ " rows"

/-- What the storage layers report while they work. -/
inductive StorageEvent where
  /-- A page is added. -/
  | allocating (page : Nat)
  /-- A record was written. -/
  | wrote (page slot : Nat)
  /-- The table was full before an insertion. -/
  | insertRejected (rows : Nat)
  /-- A stored row could not be reached. -/
  | scanStopped (error : StorageError) (row : Nat)
  deriving DecidableEq, Repr

/-- Pages in order of their numbers, and how many there may be. -/
structure Pages where
  /-- The pages added so far. -/
  allocated : Array Page
  /-- Most pages that may be added. -/
  maxPages : Nat

namespace Pages

/-- A store without pages. -/
def empty (maxPages : Nat) : Pages := ⟨#[], maxPages⟩

/-- Pages added so far. -/
def count (pages : Pages) : Nat := pages.allocated.size

/-- Page and slot of the row with the given number. -/
def locate (row : Nat) : Nat × Nat := (row / Layout.rowsPerPage, row % Layout.rowsPerPage)

/-- The page of a number. -/
def page? (pages : Pages) (page : Nat) : Option Page := pages.allocated[page]?

/-- Make sure that a page exists, adding it and the missing ones before it. -/
def allocate (pages : Pages) (page : Nat) : Reply Pages (Except StorageError Unit) StorageEvent :=
  if pages.maxPages ≤ page then ⟨.error (.pastLimit page pages.maxPages), pages, []⟩
  else
    let missing := page + 1 - pages.count
    ⟨.ok (), { pages with allocated := pages.allocated ++ Array.replicate missing Page.blank },
      (List.range' pages.count missing).map .allocating⟩

/-- The record of a slot; a missing page is reported before a missing slot. -/
def read (pages : Pages) (page slot : Nat) : Except StorageError Block :=
  match pages.page? page with
  | none => .error (.notAllocated page)
  | some slots =>
    if h : slot < Layout.rowsPerPage then .ok slots[slot]
    else .error (.noSuchSlot slot Layout.rowsPerPage)

/-- Replace the record of a slot that exists; other slots, and missing ones, stay. -/
def put (pages : Pages) (page slot : Nat) (block : Block) : Pages :=
  { pages with allocated := pages.allocated.modify page (·.setIfInBounds slot block) }

/-- Store a record, adding its page if need be; a missing slot is reported before a page
past the limit, and no page is added for it. -/
def write (pages : Pages) (page slot : Nat) (block : Block) :
    Reply Pages (Except StorageError Unit) StorageEvent :=
  if Layout.rowsPerPage ≤ slot then
    ⟨.error (.noSuchSlot slot Layout.rowsPerPage), pages, []⟩
  else
    let ready := pages.allocate page
    match ready.answer with
    | .error error => ⟨.error error, ready.state, ready.events⟩
    | .ok () => ⟨.ok (), ready.state.put page slot block, ready.events ++ [.wrote page slot]⟩

/-- Add a page if need be, then replace the record of one of its slots if the page has such a
slot; the answer says whether it has. -/
def overwrite (pages : Pages) (page slot : Nat) (block : Block) :
    Reply Pages (Except StorageError Bool) StorageEvent :=
  let ready := pages.allocate page
  match ready.answer with
  | .error error => ⟨.error error, ready.state, ready.events⟩
  | .ok () =>
    if slot < Layout.rowsPerPage then ⟨.ok true, ready.state.put page slot block, ready.events⟩
    else ⟨.ok false, ready.state, ready.events⟩

/-- Replacing a record changes no page count. -/
@[simp] theorem count_put (pages : Pages) (page slot : Nat) (block : Block) :
    (pages.put page slot block).count = pages.count := by
  simp [put, count]

/-- Within the limit, allocation leaves at least the page asked for and all pages there were. -/
theorem count_allocate {pages : Pages} {page : Nat} (within : page < pages.maxPages) :
    (pages.allocate page).state.count = max pages.count (page + 1) := by
  simp only [allocate, Nat.not_le.2 within, if_false, count, Array.size_append,
    Array.size_replicate]
  omega

end Pages

end RowStore
