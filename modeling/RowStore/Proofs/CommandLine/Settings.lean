import RowStore.Proofs.CommandLine.Configuration
import RowStore.Proofs.Text.Utf8.Replacement

/-!
# Checking items

The items of a command line are accepted exactly if each of them makes a setting by itself and the
settings may stand together. The settings are those that the items make, in order.
-/

namespace RowStore.CommandLine

/-- The setting that a parameter makes of the bytes of its value. -/
def Parameter.setting? (parameter : Parameter) (value : Argument) : Option Setting :=
  match Text.Utf8.decode? value with
  | none => none
  | some text => (parameter.set (.ofList text)).toOption

/-- The setting that an item makes, if it makes one. -/
def Item.setting? : Item → Option Setting
  | .attached parameter value => parameter.setting? value
  | .separate parameter (some value) => parameter.setting? value
  | .flag .noPrompt => some .noPrompt
  | _ => none

/-- A parameter makes a setting exactly of the values by which it sets that. -/
theorem setting?_eq_some {parameter : Parameter} {value : Argument} {setting : Setting} :
    parameter.setting? value = some setting ↔ parameter.Sets value setting := by
  have accepted (text : String) : (parameter.set text).toOption = some setting ↔
      parameter.set text = .ok setting := by
    cases parameter.set text <;> simp [Except.toOption]
  rw [Parameter.setting?]
  constructor
  · intro made
    split at made
    · cases made
    · next text read =>
      refine ⟨.ofList text, ?_, (accepted _).1 made⟩
      rw [String.toList_ofList, Text.Utf8.decode?_eq_some.1 read]
  · rintro ⟨text, rfl, set⟩
    rw [Text.Utf8.decode?_encode]
    simp only [String.ofList_toList]
    exact (accepted text).2 set

/-- A parameter is accepted as the setting that it makes, unless its option was given before. -/
theorem acceptParameter_eq_ok {given : List Setting} {parameter : Parameter} {value : Argument}
    {setting : Setting} :
    acceptParameter given parameter (some value) = .ok setting ↔
      parameter.setting? value = some setting ∧ setting.option ∉ given.map Setting.option := by
  have read : (acceptParameter given parameter (some value)).toOption =
      if isGiven (.parameter parameter) given then none else parameter.setting? value := by
    rw [acceptParameter, Parameter.setting?]
    split
    · rfl
    · cases Text.Utf8.decode? value <;> rfl
  have accepted : acceptParameter given parameter (some value) = .ok setting ↔
      (acceptParameter given parameter (some value)).toOption = some setting := by
    cases acceptParameter given parameter (some value) <;> simp [Except.toOption]
  rw [accepted, read]
  constructor
  · intro made
    split at made
    · cases made
    · next fresh =>
      rw [(setting?_eq_some.1 made).option_eq, ← isGiven_iff]
      exact ⟨made, fresh⟩
  · rintro ⟨made, fresh⟩
    rw [(setting?_eq_some.1 made).option_eq, ← isGiven_iff] at fresh
    rw [if_neg fresh, made]

/-- In front of what is accepted stands nothing that fits nowhere. -/
theorem misfit?_of_accept {given settings : List Setting} {items : List Item}
    (accepted : accept given items = .ok (.run settings)) :
    items.head?.bind Item.misfit? = none := by
  cases items with
  | nil => rfl
  | cons item rest =>
    cases item with
    | flagWithValue flag value =>
      rw [accept] at accepted
      cases accepted
    | stray text =>
      rw [accept] at accepted
      cases accepted
    | _ => rfl

/-- An item that is accepted, with a session to run in the end, makes a setting of an option not
given before, and the others are accepted behind that. -/
theorem exists_setting_of_accept {given settings : List Setting} {item : Item} {rest : List Item}
    (accepted : accept given (item :: rest) = .ok (.run settings)) :
    ∃ setting, item.setting? = some setting ∧ setting.option ∉ given.map Setting.option ∧
      accept (given ++ [setting]) rest = .ok (.run settings) := by
  cases item with
  | attached parameter value =>
    rw [accept] at accepted
    split at accepted
    · cases accepted
    · next setting made =>
      obtain ⟨made, fresh⟩ := acceptParameter_eq_ok.1 made
      exact ⟨setting, made, fresh, accepted⟩
  | separate parameter value =>
    rw [accept] at accepted
    split at accepted
    · cases accepted
    · split at accepted
      · cases accepted
      · next setting made =>
        cases value with
        | none =>
          rw [acceptParameter] at made
          cases made
        | some bytes =>
          obtain ⟨made, fresh⟩ := acceptParameter_eq_ok.1 made
          exact ⟨setting, made, fresh, accepted⟩
  | flag flag =>
    cases flag with
    | noPrompt =>
      rw [accept] at accepted
      split at accepted
      · cases accepted
      · next ungiven => exact ⟨.noPrompt, rfl, mt isGiven_iff.2 ungiven, accepted⟩
    | help =>
      rw [accept] at accepted
      cases accepted
    | version =>
      rw [accept] at accepted
      cases accepted
  | flagWithValue flag value =>
    rw [accept] at accepted
    cases accepted
  | stray text =>
    rw [accept] at accepted
    cases accepted

/-- An item that makes a setting of an option not given before is accepted in front of what is
accepted behind that. -/
theorem accept_cons_of_setting? {given settings : List Setting} {item : Item} {rest : List Item}
    {setting : Setting} (made : item.setting? = some setting)
    (fresh : setting.option ∉ given.map Setting.option)
    (accepted : accept (given ++ [setting]) rest = .ok (.run settings)) :
    accept given (item :: rest) = .ok (.run settings) := by
  cases item with
  | attached parameter value =>
    rw [accept, acceptParameter_eq_ok.2 ⟨made, fresh⟩]
    exact accepted
  | separate parameter value =>
    cases value with
    | none => cases made
    | some bytes =>
      rw [accept, misfit?_of_accept accepted, acceptParameter_eq_ok.2 ⟨made, fresh⟩]
      exact accepted
  | flag flag =>
    cases flag with
    | noPrompt =>
      cases made
      have ungiven : ¬isGiven (.flag .noPrompt) given = true := mt isGiven_iff.1 fresh
      rw [accept, if_neg ungiven]
      exact accepted
    | help => cases made
    | version => cases made
  | flagWithValue flag value => cases made
  | stray text => cases made

/-- Behind settings of different options, items are accepted exactly if they make settings that
keep all options different. -/
theorem accept_eq_run {given settings : List Setting} {items : List Item}
    (once : (given.map Setting.option).Nodup) :
    accept given items = .ok (.run settings) ↔
      ∃ made, items.map Item.setting? = made.map some ∧ settings = given ++ made ∧
        (settings.map Setting.option).Nodup := by
  -- Each item is accepted behind the settings so far, which is why these vary.
  induction items generalizing given with
  | nil =>
    rw [accept]
    constructor
    · intro accepted
      cases accepted
      exact ⟨[], rfl, (List.append_nil _).symm, once⟩
    · rintro ⟨made, none, rfl, -⟩
      obtain rfl : made = [] := List.map_eq_nil_iff.1 none.symm
      rw [List.append_nil]
  | cons item rest ih =>
    have extended (setting : Setting) : ((given ++ [setting]).map Setting.option).Nodup ↔
        setting.option ∉ given.map Setting.option := by
      rw [List.map_append, List.map_singleton, ← List.concat_eq_append, List.nodup_concat,
        and_iff_left once]
    constructor
    · intro accepted
      obtain ⟨setting, made, fresh, behind⟩ := exists_setting_of_accept accepted
      obtain ⟨others, make, rfl, distinct⟩ := (ih ((extended setting).2 fresh)).1 behind
      refine ⟨setting :: others, ?_, List.append_assoc .., distinct⟩
      rw [List.map_cons, made, make, List.map_cons]
    · rintro ⟨made, make, rfl, distinct⟩
      cases made with
      | nil => cases make
      | cons setting others =>
        obtain ⟨first, make⟩ := List.cons.inj make
        have whole : given ++ setting :: others = given ++ [setting] ++ others :=
          List.append_cons ..
        have once : ((given ++ [setting]).map Setting.option).Nodup := by
          rw [whole, List.map_append] at distinct
          exact distinct.of_append_left
        have behind := (ih once).2 ⟨others, make, whole, distinct⟩
        exact accept_cons_of_setting? first ((extended setting).1 once) behind

/-- No conflict is found exactly if none of the settings excludes another. -/
theorem conflict?_eq_none {given : List Setting} :
    conflict? given = none ↔
      ∀ setting ∈ given, ∀ other ∈ given, ¬setting.option.excludes other.option := by
  simp only [conflict?, List.findSome?_eq_none_iff, Option.map_eq_none_iff, List.find?_eq_none]

/-- Arguments are read as settings exactly if their items are accepted as these and no conflict is
found among them. -/
theorem read_eq_accept {arguments : List Argument} {given : List Setting} :
    reader.read arguments = .ok (.run given) ↔
      accept [] (items arguments) = .ok (.run given) ∧ conflict? given = none := by
  simp only [reader]
  split
  · next settings run =>
    rw [run, Except.ok.injEq, Request.run.injEq]
    cases found : conflict? settings with
    | some error =>
      constructor
      · intro read
        cases read
      · rintro ⟨rfl, none⟩
        rw [found] at none
        cases none
    | none =>
      constructor
      · intro read
        cases read
        exact ⟨rfl, found⟩
      · rintro ⟨rfl, -⟩
        rfl
  · next other =>
    constructor
    · intro read
      exact absurd read (other given)
    · rintro ⟨read, -⟩
      exact absurd read (other given)

/-- Arguments are read as settings exactly if their items make these, and they may stand
together. -/
theorem read_eq_run {arguments : List Argument} {given : List Setting} :
    reader.read arguments = .ok (.run given) ↔
      (items arguments).map Item.setting? = given.map some ∧ Compatible given := by
  have accepted : accept [] (items arguments) = .ok (.run given) ↔
      (items arguments).map Item.setting? = given.map some ∧
        (given.map Setting.option).Nodup := by
    simp [accept_eq_run]
  rw [read_eq_accept, accepted, conflict?_eq_none, forall_not_excludes_iff, and_assoc]
  constructor
  · rintro ⟨make, once, exclusive⟩
    exact ⟨make, once, exclusive⟩
  · rintro ⟨make, once, exclusive⟩
    exact ⟨make, once, exclusive⟩

end RowStore.CommandLine
