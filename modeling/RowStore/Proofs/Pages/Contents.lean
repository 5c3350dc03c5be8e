import RowStore.Pages

/-!
# Contents of pages

Pages read as a total function from page and slot to a record, with zeros where no slot is.
Allocation leaves this function as it is, and a write changes it at one place only. What a
read answers follows from it and the page count, so later proofs never open the arrays.
-/

namespace RowStore.Pages

/-- The slot of a page, if both exist. -/
def slot? (pages : Pages) (page slot : Nat) : Option Block := (pages.page? page).bind (·[slot]?)

/-- What a slot holds, and zeros where no slot is. -/
def content (pages : Pages) (page slot : Nat) : Block := (pages.slot? page slot).getD Block.zero

/-- A store without pages holds zeros. -/
@[simp] theorem content_empty (maxPages page slot : Nat) :
    (empty maxPages).content page slot = Block.zero := by
  simp [content, slot?, page?, empty]

/-- A slot exists when its page was added and has a slot of that number. -/
theorem slot?_eq (pages : Pages) (page slot : Nat) :
    pages.slot? page slot =
      if page < pages.count ∧ slot < Layout.rowsPerPage then some (pages.content page slot)
      else none := by
  by_cases added : page < pages.count
  · have found : pages.page? page = some pages.allocated[page] := Array.getElem?_eq_getElem added
    by_cases inside : slot < Layout.rowsPerPage
    · simp [content, slot?, found, added, inside]
    · simp [slot?, found, inside]
  · have missing : pages.page? page = none := Array.getElem?_eq_none (Nat.not_lt.1 added)
    simp [slot?, missing, added]

/-- Reading answers with the contents of a slot that exists, and reports a missing page before
a missing slot. -/
theorem read_eq (pages : Pages) (page slot : Nat) :
    pages.read page slot =
      if pages.count ≤ page then .error (.notAllocated page)
      else if Layout.rowsPerPage ≤ slot then .error (.noSuchSlot slot Layout.rowsPerPage)
      else .ok (pages.content page slot) := by
  by_cases missing : pages.count ≤ page
  · have absent : pages.page? page = none := Array.getElem?_eq_none missing
    simp [read, absent, missing]
  · have added : page < pages.count := Nat.lt_of_not_le missing
    have found : pages.page? page = some pages.allocated[page] := Array.getElem?_eq_getElem added
    by_cases outside : Layout.rowsPerPage ≤ slot
    · simp [read, found, missing, outside, Nat.not_lt.2 outside]
    · simp [read, content, slot?, found, missing, outside, Nat.lt_of_not_le outside]

/-- A slot is read without an error exactly when it exists, and both ways give its record. -/
theorem read_eq_ok {pages : Pages} {page slot : Nat} {block : Block} :
    pages.read page slot = .ok block ↔ pages.slot? page slot = some block := by
  rw [read_eq, slot?_eq]
  by_cases missing : pages.count ≤ page
  · simp [missing, Nat.not_lt.2 missing]
  by_cases outside : Layout.rowsPerPage ≤ slot
  · simp [missing, outside, Nat.not_lt.2 outside]
  · simp [missing, outside, Nat.lt_of_not_le missing, Nat.lt_of_not_le outside]

/-- Allocation is refused exactly past the limit. -/
theorem answer_allocate (pages : Pages) (page : Nat) :
    (pages.allocate page).answer =
      if pages.maxPages ≤ page then .error (.pastLimit page pages.maxPages) else .ok () := by
  unfold allocate
  split <;> rfl

/-- A refused allocation adds no page. -/
theorem allocate_refused {pages : Pages} {page : Nat} (past : pages.maxPages ≤ page) :
    (pages.allocate page).state = pages := by
  simp [allocate, past]

/-- Allocation keeps the limit. -/
@[simp] theorem maxPages_allocate (pages : Pages) (page : Nat) :
    (pages.allocate page).state.maxPages = pages.maxPages := by
  unfold allocate
  split <;> rfl

/-- Allocation removes no page. -/
theorem count_le_allocate (pages : Pages) (page : Nat) :
    pages.count ≤ (pages.allocate page).state.count := by
  by_cases past : pages.maxPages ≤ page
  · exact Nat.le_of_eq (congrArg count (allocate_refused past).symm)
  · rw [count_allocate (Nat.lt_of_not_le past)]
    exact Nat.le_max_left _ _

/-- Allocation changes no contents: the pages that were there stay in place, and a new page
holds the zeros that were read there before. -/
@[simp] theorem content_allocate (pages : Pages) (page : Nat) :
    (pages.allocate page).state.content = pages.content := by
  funext place slot
  by_cases past : pages.maxPages ≤ page
  · rw [allocate_refused past]
  · simp only [content, slot?, page?, allocate, if_neg past, Array.getElem?_append]
    by_cases added : place < pages.allocated.size
    · rw [if_pos added]
    · rw [if_neg added, Array.getElem?_eq_none (Nat.not_lt.1 added), Array.getElem?_replicate]
      split
      · simp [Page.blank, Vector.getElem?_replicate]
        split <;> rfl
      · rfl

/-- Replacing the record of a slot that exists changes the contents of that slot alone. -/
theorem content_put {pages : Pages} {page slot : Nat} (block : Block)
    (added : page < pages.count) (inside : slot < Layout.rowsPerPage) (place position : Nat) :
    (pages.put page slot block).content place position =
      if place = page ∧ position = slot then block else pages.content place position := by
  simp only [content, slot?, page?, put, Array.getElem?_modify]
  by_cases same : page = place
  · subst same
    have found : pages.allocated[page]? = some pages.allocated[page] :=
      Array.getElem?_eq_getElem added
    by_cases here : slot = position
    · subst here
      simp [found, inside]
    · simp [found, here, Ne.symm here]
  · simp [same, Ne.symm same]

/-- Pages after a record was stored: its page is there, and the slot holds it. -/
def stored (pages : Pages) (page slot : Nat) (block : Block) : Pages :=
  (pages.allocate page).state.put page slot block

/-- Storing a record adds the pages up to its own. -/
theorem count_stored {pages : Pages} {page : Nat} (within : page < pages.maxPages) (slot : Nat)
    (block : Block) : (pages.stored page slot block).count = max pages.count (page + 1) := by
  rw [stored, count_put, count_allocate within]

/-- Storing a record removes no page. -/
theorem count_le_stored {pages : Pages} {page : Nat} (within : page < pages.maxPages) (slot : Nat)
    (block : Block) : pages.count ≤ (pages.stored page slot block).count := by
  rw [count_stored within]
  exact Nat.le_max_left _ _

/-- Storing a record keeps the limit. -/
@[simp] theorem maxPages_stored (pages : Pages) (page slot : Nat) (block : Block) :
    (pages.stored page slot block).maxPages = pages.maxPages :=
  maxPages_allocate pages page

/-- Storing a record within the limit changes the contents of one slot. -/
theorem content_stored {pages : Pages} {page slot : Nat} (within : page < pages.maxPages)
    (inside : slot < Layout.rowsPerPage) (block : Block) (place position : Nat) :
    (pages.stored page slot block).content place position =
      if place = page ∧ position = slot then block else pages.content place position := by
  have added : page < (pages.allocate page).state.count := by
    rw [count_allocate within]
    omega
  rw [stored, content_put block added inside, content_allocate]

/-- All that a write can do: it refuses a missing slot, then a page past the limit, and in both
cases changes nothing; otherwise it stores the record. -/
theorem write_cases (pages : Pages) (page slot : Nat) (block : Block) :
    (Layout.rowsPerPage ≤ slot ∧
      (pages.write page slot block).answer = .error (.noSuchSlot slot Layout.rowsPerPage) ∧
      (pages.write page slot block).state = pages) ∨
    (slot < Layout.rowsPerPage ∧ pages.maxPages ≤ page ∧
      (pages.write page slot block).answer = .error (.pastLimit page pages.maxPages) ∧
      (pages.write page slot block).state = pages) ∨
    (slot < Layout.rowsPerPage ∧ page < pages.maxPages ∧
      (pages.write page slot block).answer = .ok () ∧
      (pages.write page slot block).state = pages.stored page slot block) := by
  have allocated := answer_allocate pages page
  by_cases outside : Layout.rowsPerPage ≤ slot
  · exact .inl ⟨outside, by simp [write, outside], by simp [write, outside]⟩
  have inside : slot < Layout.rowsPerPage := Nat.lt_of_not_le outside
  by_cases past : pages.maxPages ≤ page
  · rw [if_pos past] at allocated
    refine .inr (.inl ⟨inside, past, ?_, ?_⟩)
    · simp [write, outside, allocated]
    · simp [write, outside, allocated, allocate_refused past]
  · rw [if_neg past] at allocated
    refine .inr (.inr ⟨inside, Nat.lt_of_not_le past, ?_, ?_⟩)
    · simp [write, outside, allocated]
    · simp [write, outside, allocated, stored]

/-- All that an overwriting can do: a page past the limit is refused and changes nothing; within
the limit the page is added, also for a slot that it does not have. -/
theorem overwrite_cases (pages : Pages) (page slot : Nat) (block : Block) :
    (pages.maxPages ≤ page ∧
      (pages.overwrite page slot block).answer = .error (.pastLimit page pages.maxPages) ∧
      (pages.overwrite page slot block).state = pages) ∨
    (page < pages.maxPages ∧ Layout.rowsPerPage ≤ slot ∧
      (pages.overwrite page slot block).answer = .ok false ∧
      (pages.overwrite page slot block).state = (pages.allocate page).state) ∨
    (page < pages.maxPages ∧ slot < Layout.rowsPerPage ∧
      (pages.overwrite page slot block).answer = .ok true ∧
      (pages.overwrite page slot block).state = pages.stored page slot block) := by
  have allocated := answer_allocate pages page
  by_cases past : pages.maxPages ≤ page
  · rw [if_pos past] at allocated
    refine .inl ⟨past, ?_, ?_⟩
    · simp [overwrite, allocated]
    · simp [overwrite, allocated, allocate_refused past]
  rw [if_neg past] at allocated
  have within : page < pages.maxPages := Nat.lt_of_not_le past
  by_cases outside : Layout.rowsPerPage ≤ slot
  · refine .inr (.inl ⟨within, outside, ?_, ?_⟩)
    · simp [overwrite, allocated, Nat.not_lt.2 outside]
    · simp [overwrite, allocated, Nat.not_lt.2 outside]
  · have inside : slot < Layout.rowsPerPage := Nat.lt_of_not_le outside
    refine .inr (.inr ⟨within, inside, ?_, ?_⟩)
    · simp [overwrite, allocated, inside]
    · simp [overwrite, allocated, inside, stored]

end RowStore.Pages
