import RowStore.Proofs.Pages.LastWrite

/-!
# How pages grow

Whether a request to pages is granted depends on its numbers and on the page limit, and not on
what came before. A refused request changes nothing. A granted one has pages added one at a time
until its own is there, so that after any requests there are exactly as many pages as the
farthest granted one needs.
-/

namespace RowStore.Pages

/-- The pages with one more behind the last. -/
def extend (pages : Pages) : Pages := { pages with allocated := pages.allocated.push Page.blank }

/-- Pages are added one at a time and each is reported, as long as a page is missing. -/
inductive Extends (page : Nat) : Pages → Pages → List StorageEvent → Prop where
  | present {pages : Pages} (added : page < pages.count) : Extends page pages pages []
  | missing {pages final : Pages} {events : List StorageEvent} (absent : pages.count ≤ page)
      (rest : Extends page pages.extend final events) :
      Extends page pages final (.allocating pages.count :: events)

/-- What asking for a page comes to: past the limit it is refused before any page is added, and
within the limit the missing pages are added and the page is found among them. -/
inductive Obtains (page : Nat) (pages : Pages) :
    Reply Pages (Except StorageError Unit) StorageEvent → Prop where
  | refused (past : pages.maxPages ≤ page) :
      Obtains page pages ⟨.error (.pastLimit page pages.maxPages), pages, []⟩
  | obtained {final : Pages} {events : List StorageEvent} {slots : Page}
      (within : page < pages.maxPages) (extended : Extends page pages final events)
      (found : final.page? page = some slots) : Obtains page pages ⟨.ok (), final, events⟩

/-- One page more is one page more. -/
@[simp] theorem count_extend (pages : Pages) : pages.extend.count = pages.count + 1 := by
  simp [extend, count]

/-- A page that is there is not added. -/
theorem allocate_present {pages : Pages} {page : Nat} (within : page < pages.maxPages)
    (added : page < pages.count) : pages.allocate page = ⟨.ok (), pages, []⟩ := by
  have none : page + 1 - pages.count = 0 := by omega
  simp [allocate, Nat.not_le.2 within, none]

/-- Allocation of a missing page adds one page and then goes on from there. -/
theorem allocate_missing {pages : Pages} {page : Nat} (within : page < pages.maxPages)
    (absent : pages.count ≤ page) :
    pages.allocate page =
      ⟨.ok (), (pages.extend.allocate page).state,
        .allocating pages.count :: (pages.extend.allocate page).events⟩ := by
  obtain ⟨left, counted⟩ : ∃ left, page + 1 - pages.count = left + 1 :=
    ⟨page - pages.count, by omega⟩
  have fewer : page + 1 - (pages.count + 1) = left := by omega
  have grown : pages.allocated ++ Array.replicate (left + 1) Page.blank =
      pages.allocated.push Page.blank ++ Array.replicate left Page.blank := by
    rw [Array.replicate_succ', ← Array.append_assoc, Array.push_eq_append]
  have limit : ¬pages.extend.maxPages ≤ page := Nat.not_le.2 within
  simp only [allocate, if_neg (Nat.not_le.2 within), if_neg limit, count_extend, counted, fewer,
    grown, List.range'_succ, List.map_cons]
  rfl

/-- The pages that allocation adds are added one at a time, and no others are. -/
theorem extends_iff {pages final : Pages} {page : Nat} {events : List StorageEvent}
    (within : page < pages.maxPages) :
    Extends page pages final events ↔
      final = (pages.allocate page).state ∧ events = (pages.allocate page).events := by
  constructor
  · intro extended
    induction extended with
    | present added =>
      rw [allocate_present within added]
      exact ⟨rfl, rfl⟩
    | missing absent _ ih =>
      obtain ⟨state, events⟩ := ih within
      rw [allocate_missing within absent, state, events]
      exact ⟨rfl, rfl⟩
  · rintro ⟨rfl, rfl⟩
    induction left : page + 1 - pages.count generalizing pages with
    | zero =>
      have added : page < pages.count := by omega
      rw [allocate_present within added]
      exact .present added
    | succ left ih =>
      have absent : pages.count ≤ page := by omega
      rw [allocate_missing within absent]
      refine .missing absent (ih within ?_)
      rw [count_extend]
      omega

/-- Asking for a page comes to what allocation answers, and to nothing else. -/
theorem obtains_iff {pages : Pages} {page : Nat}
    {reply : Reply Pages (Except StorageError Unit) StorageEvent} :
    Obtains page pages reply ↔ reply = pages.allocate page := by
  constructor
  · intro obtains
    cases obtains with
    | refused past => simp [allocate, past]
    | obtained within extended found =>
      obtain ⟨rfl, rfl⟩ := (extends_iff within).1 extended
      have granted := answer_allocate pages page
      rw [if_neg (Nat.not_le.2 within)] at granted
      rw [← granted]
  · rintro rfl
    by_cases past : pages.maxPages ≤ page
    · have refused :
          pages.allocate page = ⟨.error (.pastLimit page pages.maxPages), pages, []⟩ := by
        simp [allocate, past]
      rw [refused]
      exact .refused past
    · have within : page < pages.maxPages := Nat.lt_of_not_le past
      have granted := answer_allocate pages page
      have added : page < (pages.allocate page).state.allocated.size := by
        have counted := count_allocate within
        rw [count] at counted
        omega
      rw [if_neg past] at granted
      have whole : pages.allocate page =
          ⟨.ok (), (pages.allocate page).state, (pages.allocate page).events⟩ := by rw [← granted]
      rw [whole]
      exact .obtained within ((extends_iff within).2 ⟨rfl, rfl⟩) (Array.getElem?_eq_getElem added)

/-- A request to pages: to read a record, or an operation. -/
inductive Request where
  | read (page slot : Nat)
  | operate (operation : Operation)

/-- Why an answer is a refusal, if it is one. -/
def refusal? {α : Type} : Except StorageError α → Option StorageError
  | .ok _ => none
  | .error error => some error

namespace Request

/-- The pages after a request, also after a refusal; reading leaves them as they are. -/
def perform (pages : Pages) : Request → Pages
  | read .. => pages
  | operate operation => operation.perform pages

/-- Why a request is refused, if it is. -/
def refusal? (pages : Pages) : Request → Option StorageError
  | read page slot => Pages.refusal? (pages.read page slot)
  | operate (.allocate page) => Pages.refusal? (pages.allocate page).answer
  | operate (.write page slot block) => Pages.refusal? (pages.write page slot block).answer
  | operate (.overwrite page slot block) =>
    Pages.refusal? (pages.overwrite page slot block).answer

/-- The page that a request asks for; reading asks for none to be there. -/
def page? : Request → Option Nat
  | read .. => none
  | operate (.allocate page) => some page
  | operate (.write page _ _) => some page
  | operate (.overwrite page _ _) => some page

/-- The page that a request asks for, if it is granted. -/
def granted? (pages : Pages) (request : Request) : Option Nat :=
  if request.refusal? pages = none then request.page? else none

end Request

/-- The pages after requests in order. -/
def serve (pages : Pages) (requests : List Request) : Pages := requests.foldl Request.perform pages

/-- The pages that the granted ones among requests in order ask for. -/
def granted : Pages → List Request → List Nat
  | _, [] => []
  | pages, request :: later =>
    (request.granted? pages).toList ++ (request.perform pages).granted later

/-- How many pages there must be for some of given numbers to exist: one more than the greatest
number, and none for no numbers. -/
def needed : List Nat → Nat
  | [] => 0
  | page :: others => max (page + 1) (needed others)

/-- Numbers together need what the more demanding ones of them need. -/
theorem needed_append (first second : List Nat) :
    needed (first ++ second) = max (needed first) (needed second) := by
  induction first with
  | nil => simp [needed]
  | cons page others ih => rw [List.cons_append, needed, ih, needed, Nat.max_assoc]

/-- The greatest number decides, wherever it stands. -/
example : needed [0, 4, 2] = 5 := by decide

/-- All that a request can do: it is refused and changes nothing, it is granted and asks for no
page, or its page is within the limit and is there afterwards with all pages before it. -/
theorem Request.perform_cases (pages : Pages) (request : Request) :
    (request.refusal? pages ≠ none ∧ request.perform pages = pages) ∨
    (request.refusal? pages = none ∧ request.page? = none ∧ request.perform pages = pages) ∨
    (∃ page, request.refusal? pages = none ∧ request.page? = some page ∧ page < pages.maxPages ∧
      (request.perform pages).count = max pages.count (page + 1) ∧
      (request.perform pages).maxPages = pages.maxPages) := by
  cases request with
  | read page slot =>
    cases answered : pages.read page slot with
    | ok block => exact .inr (.inl ⟨by simp [refusal?, Pages.refusal?, answered], rfl, rfl⟩)
    | error error => exact .inl ⟨by simp [refusal?, Pages.refusal?, answered], rfl⟩
  | operate operation =>
    cases operation with
    | allocate page =>
      have answered := answer_allocate pages page
      by_cases past : pages.maxPages ≤ page
      · rw [if_pos past] at answered
        exact .inl ⟨by simp [refusal?, Pages.refusal?, answered], allocate_refused past⟩
      · rw [if_neg past] at answered
        have within : page < pages.maxPages := Nat.lt_of_not_le past
        exact .inr (.inr ⟨page, by simp only [refusal?, Pages.refusal?, answered], rfl, within,
          count_allocate within, maxPages_allocate pages page⟩)
    | write page slot block =>
      simp only [refusal?, perform, Operation.perform]
      obtain ⟨-, refused, kept⟩ | ⟨-, -, refused, kept⟩ | ⟨-, within, answered, changed⟩ :=
        write_cases pages page slot block
      · exact .inl ⟨by simp [Pages.refusal?, refused], kept⟩
      · exact .inl ⟨by simp [Pages.refusal?, refused], kept⟩
      · rw [changed]
        exact .inr (.inr ⟨page, by simp only [Pages.refusal?, answered], rfl, within,
          count_stored within slot block, maxPages_stored pages page slot block⟩)
    | overwrite page slot block =>
      simp only [refusal?, perform, Operation.perform]
      obtain ⟨-, refused, kept⟩ | ⟨within, -, missed, added⟩ | ⟨within, -, answered, changed⟩ :=
        overwrite_cases pages page slot block
      · exact .inl ⟨by simp [Pages.refusal?, refused], kept⟩
      · rw [added]
        exact .inr (.inr ⟨page, by simp only [Pages.refusal?, missed], rfl, within,
          count_allocate within, maxPages_allocate pages page⟩)
      · rw [changed]
        exact .inr (.inr ⟨page, by simp only [Pages.refusal?, answered], rfl, within,
          count_stored within slot block, maxPages_stored pages page slot block⟩)

/-- A write is refused exactly for a slot that no page has, or else for a page past the limit. -/
theorem answer_write (pages : Pages) (page slot : Nat) (block : Block) :
    (pages.write page slot block).answer =
      if Layout.rowsPerPage ≤ slot then .error (.noSuchSlot slot Layout.rowsPerPage)
      else if pages.maxPages ≤ page then .error (.pastLimit page pages.maxPages)
      else .ok () := by
  obtain ⟨outside, refused, -⟩ | ⟨inside, past, refused, -⟩ | ⟨inside, within, answered, -⟩ :=
    write_cases pages page slot block
  · rw [refused, if_pos outside]
  · rw [refused, if_neg (Nat.not_le.2 inside), if_pos past]
  · rw [answered, if_neg (Nat.not_le.2 inside), if_neg (Nat.not_le.2 within)]

/-- A request leaves the pages there were and those that it is granted. -/
theorem Request.count_perform (pages : Pages) (request : Request) :
    (request.perform pages).count =
      max pages.count (needed (request.granted? pages).toList) := by
  obtain ⟨refused, kept⟩ | ⟨answered, none, kept⟩ | ⟨page, answered, some, -, counted, -⟩ :=
    request.perform_cases pages
  · simp [granted?, refused, kept, needed]
  · simp [granted?, answered, none, kept, needed]
  · simp [granted?, answered, some, counted, needed]

/-- A request keeps the limit, and the pages stay within it. -/
theorem Request.count_le_perform {pages : Pages} (bounded : pages.count ≤ pages.maxPages)
    (request : Request) :
    (request.perform pages).maxPages = pages.maxPages ∧
      (request.perform pages).count ≤ pages.maxPages := by
  obtain ⟨-, kept⟩ | ⟨-, -, kept⟩ | ⟨page, -, -, within, counted, limit⟩ :=
    request.perform_cases pages
  · rw [kept]
    exact ⟨rfl, bounded⟩
  · rw [kept]
    exact ⟨rfl, bounded⟩
  · refine ⟨limit, ?_⟩
    rw [counted]
    omega

/-- After requests there are the pages there were and those that the granted ones need. -/
theorem count_serve (pages : Pages) (requests : List Request) :
    (pages.serve requests).count = max pages.count (needed (pages.granted requests)) := by
  induction requests generalizing pages with
  | nil => simp [serve, granted, needed]
  | cons request later ih =>
    calc
      (pages.serve (request :: later)).count
        = max (request.perform pages).count (needed ((request.perform pages).granted later)) :=
          ih (request.perform pages)
      _ = max pages.count (needed (pages.granted (request :: later))) := by
          rw [request.count_perform, granted, needed_append, Nat.max_assoc]

/-- Requests keep the limit, and the pages stay within it. -/
theorem count_le_serve {pages : Pages} (bounded : pages.count ≤ pages.maxPages)
    (requests : List Request) :
    (pages.serve requests).maxPages = pages.maxPages ∧
      (pages.serve requests).count ≤ pages.maxPages := by
  induction requests generalizing pages with
  | nil => exact ⟨rfl, bounded⟩
  | cons request later ih =>
    obtain ⟨limit, within⟩ := request.count_le_perform bounded
    have rest := ih (limit.symm ▸ within)
    rwa [limit] at rest

/-- Whatever was asked of new pages before, a page is refused exactly past the limit, and a write
is refused exactly for a slot that no page has, or else for a page past the limit. No refusal
changes anything, and where an overwriting finds no slot it leaves what the allocation of its page
leaves. There are as many pages as the farthest granted request needs, within the limit, and no
request makes them fewer. Allocation adds the missing pages one by one, comes to an end, and finds
the page that it was asked for. -/
theorem growth_exact (maxPages : Nat) (requests : List Request) :
    let pages := (empty maxPages).serve requests
    (∀ page, (pages.allocate page).answer =
      if maxPages ≤ page then .error (.pastLimit page maxPages) else .ok ()) ∧
    (∀ page slot block, (pages.write page slot block).answer =
      if 14 ≤ slot then .error (.noSuchSlot slot 14)
      else if maxPages ≤ page then .error (.pastLimit page maxPages)
      else .ok ()) ∧
    (∀ request : Request, request.refusal? pages = none ∨ request.perform pages = pages) ∧
    (∀ page slot block, (pages.overwrite page slot block).answer = .ok true ∨
      (pages.overwrite page slot block).state = (pages.allocate page).state) ∧
    pages.count = needed ((empty maxPages).granted requests) ∧ pages.count ≤ maxPages ∧
    (∀ later, pages.count ≤ (pages.serve later).count) ∧
    ∀ page reply, Obtains page pages reply ↔ reply = pages.allocate page := by
  intro pages
  obtain ⟨limit, within⟩ : pages.maxPages = maxPages ∧ pages.count ≤ maxPages :=
    count_le_serve (Nat.zero_le _) requests
  refine ⟨fun page => ?_, fun page slot block => ?_, fun request => ?_, fun page slot block => ?_,
    ?_, within, fun later => ?_, fun page reply => obtains_iff⟩
  · rw [answer_allocate, limit]
  · rw [answer_write, Layout.rowsPerPage_eq, limit]
  · obtain ⟨-, kept⟩ | ⟨granted, -⟩ | ⟨page, granted, -⟩ := request.perform_cases pages
    · exact .inr kept
    · exact .inl granted
    · exact .inl granted
  · obtain ⟨past, -, kept⟩ | ⟨-, -, -, added⟩ | ⟨-, -, answered, -⟩ :=
      overwrite_cases pages page slot block
    · rw [kept, allocate_refused past]
      exact .inr rfl
    · exact .inr added
    · exact .inl answered
  · have counted := count_serve (empty maxPages) requests
    rwa [show (empty maxPages).count = 0 from rfl, Nat.zero_max] at counted
  · rw [count_serve pages later]
    exact Nat.le_max_left _ _

end RowStore.Pages
