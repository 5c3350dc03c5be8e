import RowStore.Proofs.Pages.Contents

/-!
# The last write wins

A history of allocations and writes, in any order and with any refusals between them, is
summed up by the records that it stored. A read afterwards gives the record stored last at
its page and slot, and zeros where none was.
-/

namespace RowStore.Pages

/-- An operation that may change pages. -/
inductive Operation where
  | allocate (page : Nat)
  | write (page slot : Nat) (block : Block)
  | overwrite (page slot : Nat) (block : Block)

/-- A record at the place where it was stored. -/
structure Entry where
  page : Nat
  slot : Nat
  block : Block

namespace Operation

/-- The pages after an operation, also after a refusal. -/
def perform (pages : Pages) : Operation → Pages
  | allocate page => (pages.allocate page).state
  | write page slot block => (pages.write page slot block).state
  | overwrite page slot block => (pages.overwrite page slot block).state

/-- The record that an operation stores, if it answers that it does. -/
def entry? (pages : Pages) : Operation → Option Entry
  | allocate _ => none
  | write page slot block =>
    match (pages.write page slot block).answer with
    | .ok () => some ⟨page, slot, block⟩
    | .error _ => none
  | overwrite page slot block =>
    match (pages.overwrite page slot block).answer with
    | .ok true => some ⟨page, slot, block⟩
    | _ => none

end Operation

/-- The pages after operations in order. -/
def run (pages : Pages) (operations : List Operation) : Pages :=
  operations.foldl Operation.perform pages

/-- The records that operations store in order. -/
def entries : Pages → List Operation → List Entry
  | _, [] => []
  | pages, operation :: rest =>
    (operation.entry? pages).toList ++ (operation.perform pages).entries rest

/-- The record stored last at a place. -/
def latest (entries : List Entry) (page slot : Nat) : Option Block :=
  (entries.findRev? fun entry => entry.page = page ∧ entry.slot = slot).map Entry.block

/-- Later records hide earlier ones. -/
theorem latest_append (early late : List Entry) (page slot : Nat) :
    latest (early ++ late) page slot = (latest late page slot).or (latest early page slot) := by
  simp [latest, List.find?_append, Option.map_or]

/-- One record is the last one at its own place and at no other. -/
theorem latest_singleton (entry : Entry) (page slot : Nat) :
    latest [entry] page slot =
      if page = entry.page ∧ slot = entry.slot then some entry.block else none := by
  by_cases here : page = entry.page ∧ slot = entry.slot
  · obtain ⟨rfl, rfl⟩ := here
    simp [latest]
  · have elsewhere : ¬(entry.page = page ∧ entry.slot = slot) := fun same =>
      here ⟨same.1.symm, same.2.symm⟩
    simp [latest, here, elsewhere]

/-- A record stored within the limit is what its slot holds, and all else is held as before. -/
theorem content_stored_eq_latest {pages : Pages} {page slot : Nat}
    (within : page < pages.maxPages) (inside : slot < Layout.rowsPerPage) (block : Block)
    (place position : Nat) :
    (pages.stored page slot block).content place position =
      (latest [⟨page, slot, block⟩] place position).getD (pages.content place position) := by
  rw [content_stored within inside, latest_singleton]
  split <;> rfl

/-- After one operation a slot holds the record that was stored there, or what it held before. -/
theorem content_perform (pages : Pages) (operation : Operation) (page slot : Nat) :
    (operation.perform pages).content page slot =
      (latest (operation.entry? pages).toList page slot).getD (pages.content page slot) := by
  cases operation with
  | allocate place =>
    simp [Operation.perform, Operation.entry?, latest]
  | write place position block =>
    simp only [Operation.perform, Operation.entry?]
    obtain ⟨-, refused, kept⟩ | ⟨-, -, refused, kept⟩ | ⟨inside, within, answered, changed⟩ :=
      write_cases pages place position block
    · simp [refused, kept, latest]
    · simp [refused, kept, latest]
    · rw [answered, changed]
      exact content_stored_eq_latest within inside block page slot
  | overwrite place position block =>
    simp only [Operation.perform, Operation.entry?]
    obtain ⟨-, refused, kept⟩ | ⟨-, -, missed, added⟩ | ⟨within, inside, answered, changed⟩ :=
      overwrite_cases pages place position block
    · simp [refused, kept, latest]
    · simp [missed, added, latest]
    · rw [answered, changed]
      exact content_stored_eq_latest within inside block page slot

/-- After a run a slot holds the record stored there last, or what it held before. -/
theorem content_run (pages : Pages) (operations : List Operation) (page slot : Nat) :
    (pages.run operations).content page slot =
      (latest (pages.entries operations) page slot).getD (pages.content page slot) := by
  induction operations generalizing pages with
  | nil => rfl
  | cons operation rest ih =>
    calc
      (pages.run (operation :: rest)).content page slot
        = (latest ((operation.perform pages).entries rest) page slot).getD
            ((operation.perform pages).content page slot) := ih (operation.perform pages)
      _ = (latest (pages.entries (operation :: rest)) page slot).getD
            (pages.content page slot) := by
          rw [content_perform, entries, latest_append]
          cases latest ((operation.perform pages).entries rest) page slot with
          | none => rfl
          | some block => rfl

/-- No operation removes a page. -/
theorem count_le_perform (pages : Pages) (operation : Operation) :
    pages.count ≤ (operation.perform pages).count := by
  cases operation with
  | allocate page => exact count_le_allocate pages page
  | write page slot block =>
    simp only [Operation.perform]
    obtain ⟨-, -, kept⟩ | ⟨-, -, -, kept⟩ | ⟨-, within, -, changed⟩ :=
      write_cases pages page slot block
    · exact Nat.le_of_eq (congrArg count kept.symm)
    · exact Nat.le_of_eq (congrArg count kept.symm)
    · rw [changed]
      exact count_le_stored within slot block
  | overwrite page slot block =>
    simp only [Operation.perform]
    obtain ⟨-, -, kept⟩ | ⟨-, -, -, added⟩ | ⟨within, -, -, changed⟩ :=
      overwrite_cases pages page slot block
    · exact Nat.le_of_eq (congrArg count kept.symm)
    · rw [added]
      exact count_le_allocate pages page
    · rw [changed]
      exact count_le_stored within slot block

/-- A record that can be read stays readable and the same under an operation that does not
store another one at its place. -/
theorem read_perform {pages : Pages} {operation : Operation} {page slot : Nat} {block : Block}
    (held : pages.read page slot = .ok block)
    (elsewhere : ∀ entry, operation.entry? pages = some entry →
      entry.page ≠ page ∨ entry.slot ≠ slot) :
    (operation.perform pages).read page slot = .ok block := by
  rw [read_eq_ok, slot?_eq] at held ⊢
  have unhidden : latest (operation.entry? pages).toList page slot = none := by
    cases stores : operation.entry? pages with
    | none => rfl
    | some entry =>
      rw [Option.toList_some, latest_singleton, if_neg]
      rintro ⟨rfl, rfl⟩
      rcases elsewhere entry stores with other | other <;> exact other rfl
  by_cases here : page < pages.count ∧ slot < Layout.rowsPerPage
  · have kept : page < (operation.perform pages).count ∧ slot < Layout.rowsPerPage :=
      ⟨Nat.lt_of_lt_of_le here.1 (count_le_perform pages operation), here.2⟩
    rw [if_pos here] at held
    rw [if_pos kept, content_perform, unhidden]
    exact held
  · simp [here] at held

/-- Reading after any history of operations on new pages: a page that was never added is
reported before a slot that no page has, and every other slot gives the record stored there
last, or zeros. Looking up the page and then the slot finds the same record exactly when the
read succeeds, and no further operation changes it but one that stores at its place. -/
theorem read_run (maxPages : Nat) (operations : List Operation) (page slot : Nat) :
    let pages := (empty maxPages).run operations
    pages.read page slot =
      (if pages.count ≤ page then .error (.notAllocated page)
      else if 14 ≤ slot then .error (.noSuchSlot slot 14)
      else .ok ((latest ((empty maxPages).entries operations) page slot).getD Block.zero)) ∧
    (∀ block, (pages.page? page).bind (·[slot]?) = some block ↔
      pages.read page slot = .ok block) ∧
    ∀ (operation : Operation) (block : Block), pages.read page slot = .ok block →
      (∀ entry, operation.entry? pages = some entry → entry.page ≠ page ∨ entry.slot ≠ slot) →
      (operation.perform pages).read page slot = .ok block := by
  intro pages
  refine ⟨?_, fun block => read_eq_ok.symm, fun operation block => read_perform⟩
  rw [read_eq, content_run, content_empty, Layout.rowsPerPage_eq]

end RowStore.Pages
