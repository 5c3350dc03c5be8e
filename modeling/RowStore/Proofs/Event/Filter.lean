import Mathlib.Data.List.Induction
import RowStore.Event.Filter

/-!
# What log filters admit

Of the directives that speak about a target one decides: the last of those with the longest name.
A filter in writing is a level, or modules with a level each and commas between them, and it is
read as these directives.
-/

namespace RowStore

namespace LogFilter

/-- The last one of the directives with the longest name. -/
def LastLongest (directives : List Directive) (directive : Directive) : Prop :=
  ∃ before behind, directives = before ++ directive :: behind ∧
    (∀ other ∈ before, other.target.length ≤ directive.target.length) ∧
    ∀ other ∈ behind, other.target.length < directive.target.length

/-- No directive has a longer name than the last one of those with the longest. -/
theorem LastLongest.length_le {directives : List Directive} {directive other : Directive}
    (longest : LastLongest directives directive) (member : other ∈ directives) :
    other.target.length ≤ directive.target.length := by
  obtain ⟨before, behind, rfl, early, late⟩ := longest
  rcases List.mem_append.1 member with first | later
  · exact early other first
  · rcases List.mem_cons.1 later with rfl | last
    · exact Nat.le_refl _
    · exact Nat.le_of_lt (late other last)

/-- One directive more is the one unless its name is shorter. -/
theorem lastLongest_concat {directives : List Directive} {last directive : Directive} :
    LastLongest (directives ++ [last]) directive ↔
      (directive = last ∧ ∀ other ∈ directives, other.target.length ≤ last.target.length) ∨
      (LastLongest directives directive ∧ last.target.length < directive.target.length) := by
  constructor
  · rintro ⟨before, behind, split, early, late⟩
    rcases List.eq_nil_or_concat behind with rfl | ⟨between, final, rfl⟩
    · obtain ⟨rfl, rfl⟩ : directives = before ∧ last = directive := by simpa using split
      exact .inl ⟨rfl, early⟩
    · rw [List.concat_eq_append] at split late
      rw [← List.cons_append, ← List.append_assoc] at split
      obtain ⟨shorter, ends⟩ := List.append_inj' split rfl
      obtain rfl : last = final := by simpa using ends
      obtain ⟨inner, ending⟩ := List.forall_mem_append.1 late
      exact .inr ⟨⟨before, between, shorter, early, inner⟩, ending last (List.mem_singleton_self _)⟩
  · rintro (⟨rfl, early⟩ | ⟨⟨before, behind, rfl, early, late⟩, shorter⟩)
    · exact ⟨directives, [], rfl, early, by simp⟩
    · refine ⟨before, behind ++ [last], by simp, early, ?_⟩
      exact List.forall_mem_append.2 ⟨late, List.forall_mem_singleton.2 shorter⟩

/-- Of some directives one is preferred. -/
theorem eq_nil_of_foldl_prefer {directives : List Directive}
    (none : directives.foldl prefer none = none) : directives = [] := by
  cases directives using List.reverseRecOn with
  | nil => rfl
  | append_singleton earlier last =>
    rw [List.foldl_append, List.foldl_cons, List.foldl_nil, prefer.eq_def] at none
    split at none
    · cases none
    · split at none <;> cases none

/-- Preferring the better of two directives, from the first to the last, finds that one. -/
theorem foldl_prefer_eq_some {directives : List Directive} {directive : Directive} :
    directives.foldl prefer none = some directive ↔ LastLongest directives directive := by
  induction directives using List.reverseRecOn generalizing directive with
  | nil => simp [LastLongest]
  | append_singleton earlier last ih =>
    rw [List.foldl_append, List.foldl_cons, List.foldl_nil, lastLongest_concat]
    cases best : earlier.foldl prefer none with
    | none =>
      rw [eq_nil_of_foldl_prefer best]
      simp [prefer, LastLongest, eq_comm]
    | some chosen =>
      have longest : LastLongest earlier chosen := ih.1 best
      have only : ∀ other, LastLongest earlier other ↔ chosen = other := by
        intro other
        rw [← ih, best, Option.some.injEq]
      rw [prefer, only]
      by_cases longer : chosen.target.length ≤ last.target.length
      · have all : ∀ other ∈ earlier, other.target.length ≤ last.target.length :=
          fun other member => Nat.le_trans (longest.length_le member) longer
        rw [if_pos longer, Option.some.injEq]
        constructor
        · rintro rfl
          exact .inl ⟨rfl, all⟩
        · rintro (⟨rfl, -⟩ | ⟨rfl, shorter⟩)
          · rfl
          · omega
      · have member : chosen ∈ earlier := by
          obtain ⟨before, behind, rfl, -, -⟩ := longest
          simp
        rw [if_neg longer, Option.some.injEq]
        constructor
        · rintro rfl
          exact .inr ⟨rfl, Nat.lt_of_not_le longer⟩
        · rintro (⟨rfl, all⟩ | ⟨rfl, -⟩)
          · exact absurd (all chosen member) longer
          · rfl

/-- The directive that decides about a target: it speaks about the target, and of the others that
do none has a longer name, and none behind it a name as long. -/
def Decides (filter : LogFilter) (target : List Char) (directive : Directive) : Prop :=
  ∃ before behind, filter.directives = before ++ directive :: behind ∧
    directive.target <+: target ∧
    (∀ other ∈ before, other.target <+: target →
      other.target.length ≤ directive.target.length) ∧
    ∀ other ∈ behind, other.target <+: target → other.target.length < directive.target.length

/-- The directive that is found decides, and if none is found none does. -/
theorem deciding?_eq_some {filter : LogFilter} {target : String} {directive : Directive} :
    filter.deciding? target = some directive ↔ filter.Decides target.toList directive := by
  have speaks (other : Directive) :
      other.concerns target.toList = true ↔ other.target <+: target.toList :=
    List.isPrefixOf_iff_prefix
  rw [deciding?, foldl_prefer_eq_some]
  constructor
  · rintro ⟨before, behind, split, early, late⟩
    obtain ⟨front, rest, parts, first, others⟩ := List.filter_eq_append_iff.1 split
    obtain ⟨passed, last, rfl, silent, concerned, final⟩ := List.filter_eq_cons_iff.1 others
    refine ⟨front ++ passed, last, by simp [parts], (speaks _).1 concerned, ?_, ?_⟩
    · intro other member spoken
      rcases List.mem_append.1 member with among | skipped
      · apply early
        rw [← first]
        exact List.mem_filter.2 ⟨among, (speaks _).2 spoken⟩
      · exact absurd ((speaks _).2 spoken) (silent other skipped)
    · intro other member spoken
      apply late
      rw [← final]
      exact List.mem_filter.2 ⟨member, (speaks _).2 spoken⟩
  · rintro ⟨before, behind, split, spoken, early, late⟩
    refine ⟨before.filter (·.concerns target.toList), behind.filter (·.concerns target.toList),
      ?_, ?_, ?_⟩
    · have concerned := (speaks directive).2 spoken
      rw [split, List.filter_append, List.filter_cons_of_pos (by simpa using concerned)]
    · intro other member
      obtain ⟨among, concerned⟩ := List.mem_filter.1 member
      exact early other among ((speaks _).1 concerned)
    · intro other member
      obtain ⟨among, concerned⟩ := List.mem_filter.1 member
      exact late other among ((speaks _).1 concerned)

/-- What a filter admits of an event with a level and a target: the directive that decides about
the target limits the level, and the level is within the limit. -/
def Admits (filter : LogFilter) (level : Level) (target : String) : Prop :=
  ∃ directive most, filter.Decides target.toList directive ∧ directive.limit = some most ∧
    level.rank ≤ most.rank

/-- An event is admitted for its level and target. -/
theorem admits_iff {filter : LogFilter} {event : Event} :
    filter.admits event = true ↔ filter.Admits event.level event.target := by
  rw [admits]
  cases found : filter.deciding? event.target with
  | none =>
    refine iff_of_false (by simp) ?_
    rintro ⟨directive, most, decides, -, -⟩
    rw [deciding?_eq_some.2 decides] at found
    cases found
  | some chosen =>
    have decides := deciding?_eq_some.1 found
    constructor
    · intro admitted
      simp only [LevelLimit.admits] at admitted
      split at admitted
      · cases admitted
      · next most limited => exact ⟨chosen, most, decides, limited, of_decide_eq_true admitted⟩
    · rintro ⟨directive, most, also, limited, below⟩
      rw [deciding?_eq_some.2 also] at found
      obtain rfl := Option.some.inj found
      simp only [LevelLimit.admits, limited]
      exact decide_eq_true below

end LogFilter

/-- The names of limits are no empty texts, and none of the marks between names is in them. -/
theorem Directive.name_of_limit? {name : List Char} {limit : LevelLimit}
    (named : limit? name = some limit) : name ≠ [] ∧ '=' ∉ name ∧ ',' ∉ name := by
  obtain ⟨before, behind, names, -⟩ := List.lookup_eq_some_iff.1 named
  have among : (name.map Char.toLower, limit) ∈ limitNames := by
    rw [names]
    simp
  have each : ∀ entry ∈ limitNames, entry.1 ≠ [] ∧ '=' ∉ entry.1 ∧ ',' ∉ entry.1 := by decide
  obtain ⟨some, noEquals, noComma⟩ := each _ among
  refine ⟨fun none => some (by rw [none, List.map_nil]), fun member => ?_, fun member => ?_⟩
  · have lower : '='.toLower ∈ name.map Char.toLower := List.mem_map_of_mem member
    exact noEquals lower
  · have lower : ','.toLower ∈ name.map Char.toLower := List.mem_map_of_mem member
    exact noComma lower

/-- The names of targets are no empty texts, and none of the marks between names is in them. -/
theorem Directive.name_of_isTarget {name : List Char} (valid : isTarget name = true) :
    name ≠ [] ∧ '=' ∉ name ∧ ',' ∉ name := by
  obtain ⟨some, each⟩ := Bool.and_eq_true_iff.1 valid
  rw [List.all_eq_true] at each
  refine ⟨by simpa using some, fun member => ?_, fun member => ?_⟩
  · exact absurd (each _ member) (by decide)
  · exact absurd (each _ member) (by decide)

/-- A directive in writing: a target, an equals sign and the name of a limit. -/
inductive Directive.Written : String → Directive → Prop where
  | directive {target name : String} {limit : LevelLimit} (valid : isTarget target.toList = true)
      (named : limit? name.toList = some limit) :
      Written (target ++ "=" ++ name) ⟨target.toList, limit⟩

/-- A directive in writing is read as what it is. -/
theorem Directive.Written.parse?_eq {text : String} {directive : Directive}
    (written : Written text directive) : parse? text.toList = some directive := by
  cases written with
  | @directive target name limit valid named =>
    obtain ⟨-, clean, -⟩ := name_of_isTarget valid
    obtain ⟨some, -, -⟩ := name_of_limit? named
    have plain : ∀ c ∈ target.toList, (c != '=') = true := by
      intro c member
      rw [bne_iff_ne]
      rintro rfl
      exact clean member
    have text_eq : (target ++ "=" ++ name).toList = target.toList ++ '=' :: name.toList := by simp
    have front : (target.toList ++ '=' :: name.toList).takeWhile (· != '=') = target.toList := by
      rw [List.takeWhile_append_of_pos plain]
      simp
    have rest : (target.toList ++ '=' :: name.toList).dropWhile (· != '=') =
        '=' :: name.toList := by
      rw [List.dropWhile_append_of_pos plain]
      simp
    have noLimit : limit? (target.toList ++ '=' :: name.toList) = none := by
      cases read : limit? (target.toList ++ '=' :: name.toList) with
      | none => rfl
      | some other => exact absurd (name_of_limit? read).2.1 (by simp)
    rw [text_eq, parse?, noLimit]
    simp only [front, valid, rest]
    cases letters : name.toList with
    | nil => exact absurd letters some
    | cons c later =>
      rw [letters] at named
      simp [named]

/-- A filter in writing: the name of a limit, or directives with commas between them. -/
inductive LogFilter.Written : String → LogFilter → Prop where
  | level {name : String} {limit : LevelLimit}
      (named : Directive.limit? name.toList = some limit) : Written name ⟨[⟨[], limit⟩]⟩
  | modules {texts : List String} {directives : List Directive} (some : texts ≠ [])
      (each : List.Forall₂ Directive.Written texts directives) :
      Written (",".intercalate texts) ⟨directives⟩

/-- A directive in writing has no comma and is no empty text. -/
theorem Directive.Written.piece {text : String} {directive : Directive}
    (written : Written text directive) : ',' ∉ text.toList ∧ text.toList ≠ [] := by
  cases written with
  | @directive target name limit valid named =>
    obtain ⟨-, -, clean⟩ := name_of_isTarget valid
    obtain ⟨-, -, plain⟩ := name_of_limit? named
    simp [clean, plain]

/-- Directives in writing are the pieces of a filter in writing, and are read one by one. -/
theorem Directive.pieces_of_written {texts : List String} {directives : List Directive}
    (each : List.Forall₂ Written texts directives) :
    (∀ piece ∈ texts.map String.toList, ',' ∉ piece ∧ piece ≠ []) ∧
      (texts.map String.toList).mapM parse? = some directives := by
  induction each with
  | nil => exact ⟨by simp, rfl⟩
  | cons first _ ih =>
    obtain ⟨pieces, read⟩ := ih
    refine ⟨List.forall_mem_cons.2 ⟨first.piece, pieces⟩, ?_⟩
    simp [List.mapM_cons, first.parse?_eq, read]

/-- A filter in writing is read as what it is. -/
theorem LogFilter.Written.parse?_eq {text : String} {filter : LogFilter}
    (written : Written text filter) : parse? text = some filter := by
  rw [parse?]
  cases written with
  | @level _ limit named =>
    obtain ⟨some, -, clean⟩ := Directive.name_of_limit? named
    have read : Directive.parse? text.toList = .some ⟨[], limit⟩ := by rw [Directive.parse?, named]
    rw [List.splitOn_eq_singleton clean, List.filter_cons_of_pos (by simpa using some)]
    simp [List.mapM_cons, read]
  | @modules texts directives some each =>
    obtain ⟨pieces, read⟩ := Directive.pieces_of_written each
    have whole : ∀ piece ∈ texts.map String.toList, (!piece.isEmpty) = true :=
      fun piece member => by simpa using (pieces piece member).2
    have comma : ",".toList = [','] := by decide
    rw [String.toList_intercalate, comma,
      List.splitOn_intercalate ',' (fun piece member => (pieces piece member).1)
        (by simpa using some),
      List.filter_eq_self.2 whole, read]
    rfl

/-- The filter for all levels of all targets. -/
def LogFilter.whole : LogFilter := ⟨[⟨[], some .trace⟩]⟩

/-- It is one in writing, the name of the last level. -/
theorem LogFilter.written_trace : Written "trace" whole := .level (by decide)

/-- It admits every level of every target. -/
theorem LogFilter.whole_admits (level : Level) (target : String) : whole.Admits level target := by
  refine ⟨⟨[], some .trace⟩, .trace, ⟨[], [], rfl, List.nil_prefix, by simp, by simp⟩, rfl, ?_⟩
  cases level <;> decide

/-- A reader of log filters that keeps to what the language of directives promises: filters in
writing are read, and admit events for their level and target, and without a filter in force
warnings and errors are admitted. -/
structure FilterReader.Documented (reader : FilterReader) : Prop where
  /-- A filter in writing is read as what it is. -/
  written : ∀ {text filter}, LogFilter.Written text filter → ∃ admits,
    reader.read? text = some admits ∧
      ∀ event, admits event = true ↔ filter.Admits event.level event.target
  /-- The filter that is in force when none is given is the one named after warnings. -/
  standard : reader.read? "warn" = some reader.standard

/-- The program's reader of filters is one. -/
theorem LogFilter.documented_reader : LogFilter.reader.Documented where
  written := by
    intro text filter written
    have read : LogFilter.reader.read? text = some filter.admits :=
      congrArg (Option.map LogFilter.admits) written.parse?_eq
    exact ⟨_, read, fun event => admits_iff⟩
  standard := by
    have read : parse? "warn" = some .standard := by decide
    exact congrArg (Option.map LogFilter.admits) read

end RowStore
