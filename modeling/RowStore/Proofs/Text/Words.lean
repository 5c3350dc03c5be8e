import Mathlib.Data.List.DropRight
import RowStore.Text.Blank

/-!
# Words and trimming, by what they are

The words of a text are found by cutting it at every blank, and trimming drops blanks from both
ends. Here both results are said without the procedure: words stand in the text in order, each
of them up to the next blank or the end, with nothing but blanks around them; a trimmed text is
the part of the text between outer blanks that neither begins nor ends with one. Either
description holds of exactly one result, the one that is computed.
-/

namespace RowStore.Text

/-- A text of blanks only. -/
def Blank (text : List Char) : Prop := ∀ c ∈ text, isBlank c = true

/-- A text of at least one character and without blanks. -/
structure Word (text : List Char) : Prop where
  nonempty : text ≠ []
  solid : ∀ c ∈ text, isBlank c = false

/-- The maximal runs of characters of a text that are not blank, in order. -/
inductive Runs : List Char → List (List Char) → Prop where
  /-- Blanks hold no run. -/
  | blank {gap : List Char} (blank : Blank gap) : Runs gap []
  /-- The first run stands behind blanks and goes on to the next blank or to the end. -/
  | run {gap word rest : List Char} {later : List (List Char)} (blank : Blank gap)
      (word_word : Word word) (maximal : ∀ c ∈ rest.head?, isBlank c = true)
      (after : Runs rest later) : Runs (gap ++ (word ++ rest)) (word :: later)

/-- A part of a text with blanks only before and behind it, which has none at its own ends. -/
structure Trimmed (text core : List Char) : Prop where
  parts : ∃ before behind, text = before ++ (core ++ behind) ∧ Blank before ∧ Blank behind
  first : ∀ c ∈ core.head?, isBlank c = false
  last : ∀ c ∈ core.getLast?, isBlank c = false

/-- Blanks in front add no word. -/
theorem words_blank_append {gap : List Char} (blank : Blank gap) (text : List Char) :
    words (gap ++ text) = words text := by
  induction gap with
  | nil => rfl
  | cons c gap ih =>
    obtain ⟨first, others⟩ := List.forall_mem_cons.1 blank
    rw [List.cons_append, words_blank_cons _ first, ih others]

/-- A text of blanks has no words. -/
theorem words_of_blank {gap : List Char} (blank : Blank gap) : words gap = [] := by
  have none := words_blank_append blank []
  rwa [List.append_nil, words_nil] at none

/-- A word without blanks is the only word of itself. -/
theorem words_of_word {word : List Char} (isWord : Word word) : words word = [word] := by
  rw [words, List.splitOnP_eq_singleton isWord.solid]
  simp [isWord.nonempty]

/-- A run in front, up to the next blank or the end, is the first word. -/
theorem words_append {word rest : List Char} (isWord : Word word)
    (maximal : ∀ c ∈ rest.head?, isBlank c = true) :
    words (word ++ rest) = word :: words rest := by
  cases rest with
  | nil => rw [List.append_nil, words_of_word isWord, words_nil]
  | cons c rest =>
    have blank : isBlank c = true := maximal c rfl
    rw [words_blank_cons _ blank, words,
      List.splitOnP_append_cons_of_forall_mem isWord.solid c blank, List.filter_cons]
    simp [isWord.nonempty, words]

/-- A word in front of a gap is the first word. -/
theorem words_word_gap {word gap : List Char} (isWord : Word word) (blank : Blank gap)
    (apart : gap ≠ []) (rest : List Char) :
    words (word ++ (gap ++ rest)) = word :: words rest := by
  have maximal : ∀ c ∈ (gap ++ rest).head?, isBlank c = true := by
    intro c first
    rw [List.head?_append_of_ne_nil _ apart] at first
    exact blank c (List.mem_of_mem_head? first)
  rw [words_append isWord maximal, words_blank_append blank]

/-- Blanks behind add no word. -/
theorem words_append_blank {gap : List Char} (blank : Blank gap) (text : List Char) :
    words (text ++ gap) = words text := by
  cases gap with
  | nil => rw [List.append_nil]
  | cons c gap =>
    obtain ⟨first, others⟩ := List.forall_mem_cons.1 blank
    have behind : (gap.splitOnP isBlank).filter (! ·.isEmpty) = [] := words_of_blank others
    rw [words, List.splitOnP_append_cons _ _ first, List.filter_append, behind, List.append_nil,
      words]

/-- A text has no other maximal runs than its words. -/
theorem Runs.words_eq {text : List Char} {runs : List (List Char)} (read : Runs text runs) :
    words text = runs := by
  induction read with
  | blank blank => exact words_of_blank blank
  | run blank isWord maximal _ ih =>
    rw [words_blank_append blank, words_append isWord maximal, ih]

/-- Maximal runs are words. -/
theorem Runs.word_of_mem {text : List Char} {runs : List (List Char)} (read : Runs text runs)
    {run : List Char} (member : run ∈ runs) : Word run := by
  induction read with
  | blank => cases member
  | run _ isWord _ _ ih =>
    rcases List.mem_cons.1 member with rfl | later
    · exact isWord
    · exact ih later

/-- A blank in front widens the first gap. -/
theorem Runs.cons_blank {c : Char} {text : List Char} {runs : List (List Char)}
    (read : Runs text runs) (first : isBlank c = true) : Runs (c :: text) runs := by
  cases read with
  | blank blank => exact .blank (List.forall_mem_cons.2 ⟨first, blank⟩)
  | run blank isWord maximal after =>
    rw [← List.cons_append]
    exact .run (List.forall_mem_cons.2 ⟨first, blank⟩) isWord maximal after

/-- Another character in front begins a run or joins the first one. -/
theorem Runs.cons_solid {c : Char} {text : List Char} {runs : List (List Char)}
    (read : Runs text runs) (first : isBlank c = false) : ∃ more, Runs (c :: text) more := by
  by_cases begins : ∀ d ∈ text.head?, isBlank d = true
  · have alone : Word [c] := ⟨by simp, by simpa using first⟩
    have none : Blank [] := by simp [Blank]
    exact ⟨[c] :: runs, .run none alone begins read⟩
  · -- The text goes on with its first run, since a gap would have begun with a blank.
    obtain ⟨d, head, solid⟩ : ∃ d, text.head? = some d ∧ isBlank d = false := by
      simpa using begins
    cases read with
    | blank blank =>
      rw [blank d (List.mem_of_mem_head? head)] at solid
      cases solid
    | @run gap word rest later blank isWord maximal after =>
      cases gap with
      | nil =>
        have longer : Word (c :: word) :=
          ⟨by simp, List.forall_mem_cons.2 ⟨first, isWord.solid⟩⟩
        exact ⟨(c :: word) :: later, .run blank longer maximal after⟩
      | cons b gap =>
        obtain rfl : b = d := by simpa using head
        rw [blank b (List.mem_cons_self ..)] at solid
        cases solid

/-- The words of a text are its maximal runs, and it has no others. -/
theorem runs_iff {text : List Char} {runs : List (List Char)} :
    Runs text runs ↔ words text = runs := by
  constructor
  · exact Runs.words_eq
  · intro computed
    obtain ⟨found, read⟩ : ∃ found, Runs text found := by
      clear computed
      induction text with
      | nil => exact ⟨[], .blank (by simp [Blank])⟩
      | cons c text ih =>
        obtain ⟨found, read⟩ := ih
        cases first : isBlank c with
        | true => exact ⟨found, read.cons_blank first⟩
        | false => exact read.cons_solid first
    rwa [← computed, read.words_eq]

/-- Trimming leaves what is between the outer blanks. -/
theorem trimmed_trim (text : List Char) : Trimmed text (trim text) := by
  have cut : trim text ++ (text.dropWhile isBlank).rtakeWhile isBlank =
      text.dropWhile isBlank := List.rdropWhile_append_rtakeWhile
  constructor
  case parts =>
    refine ⟨text.takeWhile isBlank, (text.dropWhile isBlank).rtakeWhile isBlank, ?_, ?_, ?_⟩
    · rw [cut, List.takeWhile_append_dropWhile]
    · exact fun c member => List.mem_takeWhile_imp member
    · exact fun c member => List.mem_rtakeWhile_imp member
  case first =>
    intro c head
    have dropped := List.head?_dropWhile_not isBlank text
    rw [← cut, List.head?_append, Option.mem_def.1 head] at dropped
    exact dropped
  case last =>
    intro c last
    have kept : trim text ≠ [] := by
      intro empty
      rw [empty] at last
      cases last
    have stopped := List.rdropWhile_last_not isBlank (text.dropWhile isBlank) kept
    rw [List.getLast?_eq_some_getLast kept, Option.mem_def, Option.some.injEq] at last
    rw [← last]
    exact eq_false_of_ne_true stopped

/-- A text has no other part between its outer blanks. -/
theorem Trimmed.trim_eq {text core : List Char} (trimmed : Trimmed text core) :
    trim text = core := by
  obtain ⟨⟨before, behind, rfl, blankBefore, blankBehind⟩, first, last⟩ := trimmed
  rw [trim, List.dropWhile_append_of_pos blankBefore]
  cases core with
  | nil => simp [List.dropWhile_eq_nil_iff.2 blankBehind]
  | cons c core =>
    have start : ¬isBlank c = true := by simp [first c rfl]
    have stop : (c :: core).reverse.dropWhile isBlank = (c :: core).reverse := by
      have kept : (c :: core).rdropWhile isBlank = c :: core :=
        List.rdropWhile_eq_self_iff.2 fun nonempty => by
          simp [last _ (List.getLast?_eq_some_getLast nonempty)]
      exact List.reverse_eq_iff.1 kept
    have outer : ∀ c ∈ behind.reverse, isBlank c = true :=
      fun c member => blankBehind c (List.mem_reverse.1 member)
    rw [List.cons_append, List.dropWhile_cons_of_neg start, ← List.cons_append,
      List.reverse_append, List.dropWhile_append_of_pos outer, stop, List.reverse_reverse]

/-- Trimming takes no word away. -/
theorem words_trim (text : List Char) : words (trim text) = words text := by
  obtain ⟨before, behind, parts, blankBefore, blankBehind⟩ := (trimmed_trim text).parts
  conv => rhs; rw [parts]
  rw [words_blank_append blankBefore, words_append_blank blankBehind]

/-- A trimmed text has nothing to trim. -/
theorem trim_trim (text : List Char) : trim (trim text) = trim text := by
  obtain ⟨-, first, last⟩ := trimmed_trim text
  exact Trimmed.trim_eq ⟨⟨[], [], by simp, by simp [Blank], by simp [Blank]⟩, first, last⟩

/-- A trimmed text without blanks is the only word of the text, and no other text has it so. -/
theorem trim_eq_iff_words_eq {text word : List Char} (isWord : Word word) :
    trim text = word ↔ words text = [word] := by
  constructor
  · rintro rfl
    rw [← words_trim text, words_of_word isWord]
  · intro alone
    cases runs_iff.2 alone with
    | @run gap _ rest _ blank _ _ after =>
      have behind : Blank rest := by cases after with | blank blank => exact blank
      have head : ∀ c ∈ word.head?, isBlank c = false :=
        fun c member => isWord.solid c (List.mem_of_mem_head? member)
      have last : ∀ c ∈ word.getLast?, isBlank c = false :=
        fun c member => isWord.solid c (List.mem_of_mem_getLast? member)
      exact Trimmed.trim_eq ⟨⟨gap, rest, rfl, blank, behind⟩, head, last⟩

end RowStore.Text
