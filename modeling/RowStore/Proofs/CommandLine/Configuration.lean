import Mathlib.Data.List.Nodup
import Mathlib.Data.List.Pairwise
import RowStore.Proofs.CommandLine.Reader

/-!
# What settings amount to

Settings may stand together when no option is set twice and no prompt is given where none is
wanted. A configuration reflects settings when it has what they say and the defaults for the rest.
Both are said without an order, so settings amount to the same in any order.
-/

namespace RowStore.CommandLine

/-- An option is given when a setting is for it. -/
theorem isGiven_iff {option : OptionName} {given : List Setting} :
    isGiven option given = true ↔ option ∈ given.map Setting.option := by
  simp [isGiven]

/-- A setting is for no prompt when it is that wish. -/
theorem option_eq_noPrompt {setting : Setting} :
    setting.option = .flag .noPrompt ↔ setting = .noPrompt := by
  cases setting <;> simp [Setting.option]

/-- Settings that may stand together: each option once, and no prompt where none is wanted. -/
structure Compatible (settings : List Setting) : Prop where
  /-- No two settings are for one option. -/
  once : (settings.map Setting.option).Nodup
  /-- A prompt and the wish for none exclude each other. -/
  exclusive : ∀ text, .prompt text ∈ settings → .noPrompt ∉ settings

/-- The options that exclude each other are those of a prompt and of none. -/
theorem excludes_iff {setting other : Setting} :
    setting.option.excludes other.option = true ↔
      (∃ text, setting = .prompt text ∧ other = .noPrompt) ∨
        ∃ text, other = .prompt text ∧ setting = .noPrompt := by
  cases setting <;> cases other <;> simp [Setting.option, OptionName.excludes, OptionName.conflicts]

/-- Among settings none excludes another exactly if no prompt is given where none is wanted. -/
theorem forall_not_excludes_iff {settings : List Setting} :
    (∀ setting ∈ settings, ∀ other ∈ settings, ¬setting.option.excludes other.option) ↔
      ∀ text, .prompt text ∈ settings → .noPrompt ∉ settings := by
  constructor
  · intro free text prompt noPrompt
    exact free _ prompt _ noPrompt (excludes_iff.2 (.inl ⟨text, rfl, rfl⟩))
  · intro exclusive setting member other also excludes
    obtain ⟨text, rfl, rfl⟩ | ⟨text, rfl, rfl⟩ := excludes_iff.1 excludes
    · exact exclusive text member also
    · exact exclusive text also member

/-- Settings may stand together exactly if each can be given together with all behind it. -/
theorem compatible_iff {settings : List Setting} :
    Compatible settings ↔ settings.Pairwise Setting.Tolerates := by
  have symmetric : Std.Symm fun setting other : Setting =>
      ¬setting.option.excludes other.option := by
    constructor
    intro setting other free excludes
    exact free (excludes_iff.2 (excludes_iff.1 excludes).symm)
  have alone (setting : Setting) : ¬setting.option.excludes setting.option := by
    intro excludes
    obtain ⟨text, rfl, same⟩ | ⟨text, rfl, same⟩ := excludes_iff.1 excludes
    · cases same
    · cases same
  constructor
  · rintro ⟨once, exclusive⟩
    have free := List.pairwise_of_forall_mem_list (forall_not_excludes_iff.2 exclusive)
    exact (List.pairwise_map.1 once).imp₂ (fun _ _ => .mk) free
  · intro tolerant
    constructor
    case once => exact List.pairwise_map.2 (tolerant.imp Setting.Tolerates.different)
    case exclusive =>
      have free := tolerant.imp Setting.Tolerates.together
      exact forall_not_excludes_iff.1 (free.forall_of_forall (fun setting _ => alone setting))

/-- The configuration has what the settings say, and the defaults for the rest. -/
structure Config.Reflects (config : Config) (settings : List Setting) : Prop where
  /-- A page limit that is given is kept. -/
  maxPages_given : ∀ count, .maxPages count ∈ settings → config.maxPages = count
  /-- Without one there are a hundred pages. -/
  maxPages_default : (∀ count, .maxPages count ∉ settings) → config.maxPages = 100
  /-- A prompt that is given is kept. -/
  prompt_given : ∀ text, .prompt text ∈ settings → config.prompt = text
  /-- Without one the prompt is the usual one. -/
  prompt_default : (∀ text, .prompt text ∉ settings) → config.prompt = "db > "
  /-- That no prompt is wanted is kept beside the prompt. -/
  noPrompt_iff : config.noPrompt = true ↔ .noPrompt ∈ settings
  /-- A log filter is kept as its text, and has no default. -/
  logLevel_iff : ∀ text, config.logLevel = some text ↔ .logLevel text ∈ settings

/-- What the settings say about an option is found if it is among them, where no two are for one
option. -/
theorem findSome?_eq_some {α : Type} {said? : Setting → Option α} (telling : α → Setting)
    {option : OptionName} (about : ∀ value, (telling value).option = option)
    (tells_iff : ∀ setting value, said? setting = some value ↔ setting = telling value)
    {settings : List Setting} (once : (settings.map Setting.option).Nodup) {value : α} :
    settings.findSome? said? = some value ↔ telling value ∈ settings := by
  have member {value : α} (found : settings.findSome? said? = some value) :
      telling value ∈ settings := by
    obtain ⟨setting, member, said⟩ := List.exists_of_findSome?_eq_some found
    rwa [← (tells_iff setting value).1 said]
  constructor
  · exact member
  · intro given
    have said : said? (telling value) = some value := (tells_iff _ value).2 rfl
    cases found : settings.findSome? said? with
    | none =>
      have silent := List.findSome?_eq_none_iff.1 found _ given
      rw [said] at silent
      cases silent
    | some other =>
      have same : telling other = telling value := by
        apply List.inj_on_of_nodup_map once (member found) given
        rw [about, about]
      rw [← said, ← same]
      exact ((tells_iff _ other).2 rfl).symm

namespace Config

/-- What is made of settings of different options reflects them. -/
theorem reflects_ofSettings {settings : List Setting}
    (once : (settings.map Setting.option).Nodup) : (ofSettings settings).Reflects settings := by
  have maxPages {count : Nat} :
      settings.findSome? Setting.pageLimit? = some count ↔ .maxPages count ∈ settings :=
    findSome?_eq_some .maxPages (fun _ => rfl)
      (fun setting _ => by cases setting <;> simp [Setting.pageLimit?]) once
  have prompt {text : String} :
      settings.findSome? Setting.promptText? = some text ↔ .prompt text ∈ settings :=
    findSome?_eq_some .prompt (fun _ => rfl)
      (fun setting _ => by cases setting <;> simp [Setting.promptText?]) once
  have logLevel {text : String} :
      settings.findSome? Setting.filterText? = some text ↔ .logLevel text ∈ settings :=
    findSome?_eq_some .logLevel (fun _ => rfl)
      (fun setting _ => by cases setting <;> simp [Setting.filterText?]) once
  constructor
  case maxPages_given =>
    intro count given
    rw [ofSettings, maxPages.2 given]
    rfl
  case maxPages_default =>
    intro ungiven
    rw [ofSettings, Option.eq_none_iff_forall_ne_some.2 fun count => mt maxPages.1 (ungiven count)]
    rfl
  case prompt_given =>
    intro text given
    rw [ofSettings, prompt.2 given]
    rfl
  case prompt_default =>
    intro ungiven
    rw [ofSettings, Option.eq_none_iff_forall_ne_some.2 fun text => mt prompt.1 (ungiven text)]
    rfl
  case noPrompt_iff =>
    show isGiven (.flag .noPrompt) settings = true ↔ .noPrompt ∈ settings
    rw [isGiven_iff, List.mem_map]
    simp [option_eq_noPrompt]
  case logLevel_iff =>
    intro text
    exact logLevel

variable {config other : Config} {settings : List Setting}

/-- Settings amount to one configuration. -/
theorem Reflects.unique (reflects : config.Reflects settings) (also : other.Reflects settings) :
    config = other := by
  have maxPages : config.maxPages = other.maxPages := by
    by_cases given : ∃ count, Setting.maxPages count ∈ settings
    · obtain ⟨count, given⟩ := given
      rw [reflects.maxPages_given count given, also.maxPages_given count given]
    · have ungiven := not_exists.1 given
      rw [reflects.maxPages_default ungiven, also.maxPages_default ungiven]
  have prompt : config.prompt = other.prompt := by
    by_cases given : ∃ text, Setting.prompt text ∈ settings
    · obtain ⟨text, given⟩ := given
      rw [reflects.prompt_given text given, also.prompt_given text given]
    · have ungiven := not_exists.1 given
      rw [reflects.prompt_default ungiven, also.prompt_default ungiven]
  have noPrompt : config.noPrompt = other.noPrompt := by
    rw [Bool.eq_iff_iff, reflects.noPrompt_iff, also.noPrompt_iff]
  have logLevel : config.logLevel = other.logLevel := by
    apply Option.ext
    intro text
    rw [reflects.logLevel_iff, also.logLevel_iff]
  cases config
  cases other
  simp only [mk.injEq]
  exact ⟨maxPages, prompt, noPrompt, logLevel⟩

/-- A configuration is what settings of different options amount to exactly if it reflects them. -/
theorem reflects_iff (once : (settings.map Setting.option).Nodup) :
    config.Reflects settings ↔ config = ofSettings settings := by
  constructor
  · intro reflects
    exact reflects.unique (reflects_ofSettings once)
  · rintro rfl
    exact reflects_ofSettings once

/-- The order of the settings does not matter. -/
theorem Reflects.perm {rearranged : List Setting} (same : settings.Perm rearranged)
    (reflects : config.Reflects settings) : config.Reflects rearranged := by
  have among (setting : Setting) : setting ∈ settings ↔ setting ∈ rearranged := same.mem_iff
  obtain ⟨limit, noLimit, prompt, noText, noPrompt, logLevel⟩ := reflects
  simp only [among] at limit noLimit prompt noText noPrompt logLevel
  exact ⟨limit, noLimit, prompt, noText, noPrompt, logLevel⟩

/-- Nothing is written as the prompt exactly if none is wanted or an empty one is given. -/
theorem Reflects.effectivePrompt_eq_empty (reflects : config.Reflects settings) :
    config.effectivePrompt = "" ↔ .noPrompt ∈ settings ∨ .prompt "" ∈ settings := by
  rw [effectivePrompt]
  by_cases noPrompt : config.noPrompt = true
  · simp [noPrompt, reflects.noPrompt_iff.1 noPrompt]
  · have wanted : .noPrompt ∉ settings := mt reflects.noPrompt_iff.2 noPrompt
    rw [if_neg noPrompt, or_iff_right wanted]
    constructor
    · intro empty
      by_cases given : ∃ text, Setting.prompt text ∈ settings
      · obtain ⟨text, given⟩ := given
        rwa [← reflects.prompt_given text given, empty] at given
      · rw [reflects.prompt_default (not_exists.1 given)] at empty
        exact absurd empty (by decide)
    · exact reflects.prompt_given ""

end Config

/-- Settings in another order may stand together as well. -/
theorem Compatible.perm {settings rearranged : List Setting} (same : settings.Perm rearranged)
    (compatible : Compatible settings) : Compatible rearranged := by
  constructor
  case once => exact (same.map Setting.option).nodup_iff.1 compatible.once
  case exclusive =>
    intro text prompt noPrompt
    exact compatible.exclusive text (same.mem_iff.2 prompt) (same.mem_iff.2 noPrompt)

end RowStore.CommandLine
