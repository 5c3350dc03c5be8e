import RowStore.Proofs.CommandLine.Items
import RowStore.Proofs.CommandLine.PageCount
import RowStore.Proofs.Text.Utf8.Ascii

/-!
# The grammar of the command line

A command line is written as groups of texts, one for each setting, and perhaps two dashes at the
end. A reader that keeps to the usual syntax of long options accepts arguments exactly if they are
written so and the settings may stand together, and the configuration is what the settings say, with
the defaults for the rest. So neither the order of the groups nor the way in which a value is given
matters.
-/

namespace RowStore.CommandLine

/-- What an option means by the text of its value. -/
inductive Means : String → String → Setting → Prop where
  | maxPages {value : String} {count : Nat} (read : pageCount value = .ok count) :
      Means "--max-pages" value (.maxPages count)
  | prompt (value : String) : Means "--prompt" value (.prompt value)
  | logLevel (value : String) : Means "--log-level" value (.logLevel value)

/-- The texts of one setting. A value may follow its option as the next text unless it begins with
a dash and is longer than the dash. -/
inductive Group : List String → Setting → Prop where
  | noPrompt : Group ["--no-prompt"] .noPrompt
  | attached {option value : String} {setting : Setting} (means : Means option value setting) :
      Group [option ++ "=" ++ value] setting
  | separate {option value : String} {setting : Setting} (means : Means option value setting)
      (plain : value.toList.head? = some '-' → value = "-") : Group [option, value] setting

/-- The argument that is a text. -/
def Argument.ofText (text : String) : Argument := Text.Utf8.encode text.toList

/-- Arguments that are groups for settings in order, perhaps with two dashes at the end. -/
inductive Written : List Argument → List Setting → Prop where
  | done : Written [] []
  | terminated : Written [Argument.ofText "--"] []
  | group {front : List String} {rest : List Argument} {setting : Setting}
      {settings : List Setting} (first : Group front setting) (later : Written rest settings) :
      Written (front.map Argument.ofText ++ rest) (setting :: settings)

/-- An option means what the parameter of that name sets. -/
theorem means_iff {option value : String} {setting : Setting} :
    Means option value setting ↔ ∃ parameter : Parameter,
      option = "--" ++ parameter.longName ∧ parameter.set value = .ok setting := by
  constructor
  · intro means
    cases means with
    | maxPages read => exact ⟨.maxPages, by decide, set_maxPages_eq_ok.2 ⟨_, read, rfl⟩⟩
    | prompt => exact ⟨.prompt, by decide, rfl⟩
    | logLevel => exact ⟨.logLevel, by decide, rfl⟩
  · rintro ⟨parameter, rfl, set⟩
    cases parameter with
    | maxPages =>
      obtain ⟨count, read, rfl⟩ := set_maxPages_eq_ok.1 set
      exact .maxPages read
    | prompt =>
      cases set
      exact .prompt value
    | logLevel =>
      cases set
      exact .logLevel value

/-- The text of a parameter by itself. -/
theorem ofText_option (parameter : Parameter) :
    Argument.ofText ("--" ++ parameter.longName) = parameter.spelled := by
  cases parameter <;> decide

/-- The text of a parameter with its value. -/
theorem ofText_attached (parameter : Parameter) (value : String) :
    Argument.ofText ("--" ++ parameter.longName ++ "=" ++ value) =
      parameter.spelledWith (Argument.ofText value) := by
  have separator : Text.Utf8.encode "=".toList = [equals] := by decide
  rw [Parameter.spelledWith, ← ofText_option, Argument.ofText, String.toList_append,
    String.toList_append, Text.Utf8.encode_append, Text.Utf8.encode_append, separator,
    List.append_assoc, List.singleton_append]
  rfl

/-- Texts are the same if their arguments are. -/
theorem ofText_injective : Function.Injective Argument.ofText := by
  intro text other same
  have read : Text.Utf8.decode? (Argument.ofText text) = some text.toList :=
    Text.Utf8.decode?_encode _
  rw [same, Argument.ofText, Text.Utf8.decode?_encode, Option.some.injEq] at read
  exact (String.toList_inj.1 read).symm

/-- The argument of a text begins with a dash if the text does. -/
theorem dash_prefix_iff {text : String} :
    [dash] <+: Argument.ofText text ↔ text.toList.head? = some '-' := by
  have single : String.utf8EncodeChar '-' = [dash] := by decide
  rw [Argument.ofText, Text.Utf8.encode]
  cases text.toList with
  | nil => simp
  | cons first rest =>
    rw [List.flatMap_cons, List.head?_cons, Option.some.injEq]
    constructor
    · intro begins
      have nonempty : String.utf8EncodeChar first ≠ [] := String.utf8EncodeChar_ne_nil
      obtain ⟨byte, later, bytes⟩ := List.exists_cons_of_ne_nil nonempty
      rw [bytes, List.cons_append, List.cons_prefix_cons] at begins
      apply (Text.Utf8.mem_encodeChar_iff single).1
      rw [bytes, begins.1]
      exact List.mem_cons_self ..
    · rintro rfl
      rw [single]
      exact List.prefix_append ..

/-- A text can be an argument by itself if it does not begin with a dash or is that alone. -/
theorem plain_iff {value : String} :
    (Argument.ofText value).Plain ↔ (value.toList.head? = some '-' → value = "-") := by
  have alone : Argument.ofText "-" = [dash] := by decide
  rw [Argument.Plain, dash_prefix_iff, ← alone, ofText_injective.eq_iff]

/-- What a parameter sets by a text. -/
theorem sets_ofText_iff {parameter : Parameter} {value : String} {setting : Setting} :
    parameter.Sets (Argument.ofText value) setting ↔ parameter.set value = .ok setting := by
  constructor
  · rintro ⟨text, same, set⟩
    rwa [ofText_injective same]
  · intro set
    exact ⟨value, rfl, set⟩

/-- A group has one text or two. -/
theorem Group.ne_nil {front : List String} {setting : Setting} (group : Group front setting) :
    front ≠ [] := by
  cases group <;> simp

namespace ArgumentReader.Documented

variable {reader : ArgumentReader} {arguments : List Argument} {given settings : List Setting}

/-- A group in front of other arguments is read as its setting in front of theirs. -/
theorem read_group (documented : reader.Documented) {front : List String} {setting : Setting}
    (group : Group front setting) (rest : List Argument) :
    reader.read (front.map Argument.ofText ++ rest) = .ok (.run given) ↔
      reader.Adds setting rest given := by
  cases group with
  | noPrompt =>
    have spelled : Argument.ofText "--no-prompt" = Flag.noPrompt.spelled := by decide
    rw [List.map_singleton, List.singleton_append, spelled]
    exact documented.flag _ _ rest given .noPrompt
  | attached means =>
    obtain ⟨parameter, rfl, set⟩ := means_iff.1 means
    rw [List.map_singleton, List.singleton_append, ofText_attached, documented.attached]
    simp only [sets_ofText_iff, set, Except.ok.injEq, exists_eq_left']
  | separate means plain =>
    obtain ⟨parameter, rfl, set⟩ := means_iff.1 means
    rw [List.map_cons, List.map_singleton, ofText_option, List.cons_append,
      List.singleton_append, documented.separate]
    constructor
    · rintro ⟨_, _, other, same, -, sets, adds⟩
      cases same
      rw [sets_ofText_iff, set, Except.ok.injEq] at sets
      rwa [sets]
    · intro adds
      exact ⟨_, rest, setting, rfl, plain_iff.2 plain, sets_ofText_iff.2 set, adds⟩

/-- Arguments that are accepted begin with a group, if they are any but two dashes. -/
theorem exists_group (documented : reader.Documented) {first : Argument} {rest : List Argument}
    (read : reader.read (first :: rest) = .ok (.run given)) :
    (first = Argument.ofText "--" ∧ rest = [] ∧ given = []) ∨
      ∃ front setting later, Group front setting ∧
        first :: rest = front.map Argument.ofText ++ later ∧ reader.Adds setting later given := by
  obtain rfl | ⟨flag, setting, sets, rfl⟩ | ⟨parameter, rfl | ⟨value, rfl⟩⟩ :=
    documented.written first rest given read
  · obtain ⟨rfl, rfl⟩ := (documented.ended rest given).1 read
    exact .inl ⟨rfl, rfl, rfl⟩
  · have adds := (documented.flag flag setting rest given sets).1 read
    cases sets
    have spelled : Flag.noPrompt.spelled = Argument.ofText "--no-prompt" := by decide
    exact .inr ⟨_, _, rest, .noPrompt, by rw [spelled]; rfl, adds⟩
  · obtain ⟨_, later, setting, rfl, plain, ⟨text, rfl, set⟩, adds⟩ :=
      (documented.separate parameter rest given).1 read
    have group : Group ["--" ++ parameter.longName, text] setting :=
      .separate (means_iff.2 ⟨parameter, rfl, set⟩) (plain_iff.1 plain)
    exact .inr ⟨_, setting, later, group, by rw [← ofText_option]; rfl, adds⟩
  · obtain ⟨setting, ⟨text, rfl, set⟩, adds⟩ :=
      (documented.attached parameter value rest given).1 read
    have group : Group ["--" ++ parameter.longName ++ "=" ++ text] setting :=
      .attached (means_iff.2 ⟨parameter, rfl, set⟩)
    have spelled := ofText_attached parameter text
    exact .inr ⟨_, setting, rest, group, by rw [List.map_singleton, spelled]; rfl, adds⟩

/-- What is accepted is written as groups for the settings given, which may stand together. -/
theorem written_of_read (documented : reader.Documented)
    (read : reader.read arguments = .ok (.run given)) :
    Written arguments given ∧ given.Pairwise Setting.Tolerates := by
  -- A group takes one argument or two, so the induction is on how many there are.
  induction length : arguments.length using Nat.strongRecOn generalizing arguments given with
  | ind count shorter =>
    cases arguments with
    | nil =>
      rw [documented.nothing] at read
      cases read
      exact ⟨.done, .nil⟩
    | cons first rest =>
      obtain ⟨rfl, rfl, rfl⟩ | ⟨front, setting, later, group, split, adds⟩ :=
        documented.exists_group read
      · exact ⟨.terminated, .nil⟩
      · obtain ⟨others, accepted, rfl, first⟩ := adds
        have fewer : later.length < count := by
          have some := List.length_pos_iff.2 group.ne_nil
          rw [← length, split, List.length_append, List.length_map]
          omega
        obtain ⟨written, tolerant⟩ := shorter later.length fewer accepted rfl
        rw [split]
        exact ⟨.group group written, List.pairwise_cons.2 ⟨first, tolerant⟩⟩

/-- What is written as groups for settings that may stand together is accepted as these. -/
theorem read_of_written (documented : reader.Documented) (written : Written arguments settings)
    (tolerant : settings.Pairwise Setting.Tolerates) :
    reader.read arguments = .ok (.run settings) := by
  induction written with
  | done => exact documented.nothing
  | terminated => exact (documented.ended [] []).2 ⟨rfl, rfl⟩
  | @group front rest setting settings group _ ih =>
    obtain ⟨first, others⟩ := List.pairwise_cons.1 tolerant
    exact (documented.read_group group rest).2 ⟨settings, ih others, rfl, first⟩

/-- Arguments are accepted exactly if they are groups for settings that may stand together. -/
theorem read_eq_run (documented : reader.Documented) :
    reader.read arguments = .ok (.run given) ↔ Written arguments given ∧ Compatible given := by
  rw [compatible_iff]
  constructor
  · exact documented.written_of_read
  · rintro ⟨written, tolerant⟩
    exact documented.read_of_written written tolerant

/-- Arguments that are accepted are groups for no other settings than those given. -/
theorem settings_eq (documented : reader.Documented)
    (read : reader.read arguments = .ok (.run given)) (written : Written arguments settings) :
    settings = given := by
  induction written generalizing given with
  | done =>
    rw [documented.nothing] at read
    cases read
    rfl
  | terminated => exact ((documented.ended [] given).1 read).2.symm
  | @group front rest setting settings group _ ih =>
    obtain ⟨others, accepted, rfl, -⟩ := (documented.read_group group rest).1 read
    rw [ih accepted]

/-- Arguments are read as a configuration exactly if they are groups for settings that may stand
together and that it reflects. -/
theorem parse_eq_run (documented : reader.Documented) {config : Config} :
    reader.parse arguments = .ok (.run config) ↔
      ∃ settings, Written arguments settings ∧ Compatible settings ∧
        config.Reflects settings := by
  rw [ArgumentReader.parse_eq_run]
  constructor
  · rintro ⟨settings, read, rfl⟩
    obtain ⟨written, compatible⟩ := documented.read_eq_run.1 read
    exact ⟨settings, written, compatible, Config.reflects_ofSettings compatible.once⟩
  · rintro ⟨settings, written, compatible, reflects⟩
    exact ⟨settings, documented.read_eq_run.2 ⟨written, compatible⟩,
      (Config.reflects_iff compatible.once).1 reflects⟩

end ArgumentReader.Documented

/-- A page limit that is written keeps to its range. -/
theorem Written.bounds {arguments : List Argument} {settings : List Setting}
    (written : Written arguments settings) {count : Nat} (limit : .maxPages count ∈ settings) :
    1 ≤ count ∧ count ≤ mostPages := by
  induction written with
  | done => cases limit
  | terminated => cases limit
  | group first _ ih =>
    obtain rfl | later := List.mem_cons.1 limit
    · cases first with
      | attached means =>
        cases means with
        | maxPages read => exact (pageCount_eq_ok.1 read).2
      | separate means =>
        cases means with
        | maxPages read => exact (pageCount_eq_ok.1 read).2
    · exact ih later

/-- The page limit of an accepted command line keeps to its range. -/
theorem ArgumentReader.Documented.bounds {reader : ArgumentReader} (documented : reader.Documented)
    {arguments : List Argument} {config : Config}
    (accepted : reader.parse arguments = .ok (.run config)) :
    1 ≤ config.maxPages ∧ config.maxPages ≤ mostPages := by
  obtain ⟨settings, written, -, reflects⟩ := documented.parse_eq_run.1 accepted
  by_cases given : ∃ count, Setting.maxPages count ∈ settings
  · obtain ⟨count, limit⟩ := given
    rw [reflects.maxPages_given count limit]
    exact written.bounds limit
  · rw [reflects.maxPages_default (not_exists.1 given)]
    decide

/-- A reader that keeps to the usual syntax of long options reads arguments as a configuration
exactly if they are groups for settings that may stand together. The configuration has what the
settings say, with the defaults for the rest, and its page limit is in range; nothing is written as
the prompt exactly if none is wanted or an empty one is given. Any arguments for the same settings,
in whatever order and spelled in either way, are read as the same configuration. -/
theorem parse_exact {reader : ArgumentReader} (documented : reader.Documented)
    (arguments : List Argument) :
    ((∃ config, reader.parse arguments = .ok (.run config)) ↔
      ∃ settings, Written arguments settings ∧ Compatible settings) ∧
    ∀ config, reader.parse arguments = .ok (.run config) →
      1 ≤ config.maxPages ∧ config.maxPages ≤ 100000 ∧
      ∀ settings, Written arguments settings →
        config.Reflects settings ∧
        (config.effectivePrompt = "" ↔ .noPrompt ∈ settings ∨ .prompt "" ∈ settings) ∧
        ∀ others rearranged, Written others rearranged → settings.Perm rearranged →
          reader.parse others = .ok (.run config) := by
  refine ⟨?_, fun config accepted => ?_⟩
  · constructor
    · rintro ⟨config, accepted⟩
      obtain ⟨settings, written, compatible, -⟩ := documented.parse_eq_run.1 accepted
      exact ⟨settings, written, compatible⟩
    · rintro ⟨settings, written, compatible⟩
      have reflects := Config.reflects_ofSettings compatible.once
      exact ⟨_, documented.parse_eq_run.2 ⟨settings, written, compatible, reflects⟩⟩
  · obtain ⟨least, most⟩ := documented.bounds accepted
    refine ⟨least, most, fun settings written => ?_⟩
    obtain ⟨given, read, rfl⟩ := ArgumentReader.parse_eq_run.1 accepted
    obtain rfl := documented.settings_eq read written
    have compatible := (documented.read_eq_run.1 read).2
    have reflects := Config.reflects_ofSettings compatible.once
    refine ⟨reflects, reflects.effectivePrompt_eq_empty, ?_⟩
    intro others rearranged otherwise same
    exact documented.parse_eq_run.2
      ⟨rearranged, otherwise, compatible.perm same, reflects.perm same⟩

/-- The same settings in two orders, with each value given in the other way. -/
theorem parse_exact_rearranged :
    let arguments := List.map Argument.ofText
      ["--log-level", "-", "--max-pages=+0042", "--prompt=", "--"]
    let others := List.map Argument.ofText
      ["--prompt", "", "--log-level=-", "--max-pages", "42"]
    let settings := [.logLevel "-", .maxPages 42, .prompt ""]
    let rearranged := [.prompt "", .logLevel "-", .maxPages 42]
    reader.Documented ∧ Written arguments settings ∧ Compatible settings ∧
      Written others rearranged ∧ settings.Perm rearranged ∧
      ∃ config, reader.parse arguments = .ok (.run config) ∧
        reader.parse others = .ok (.run config) ∧
        config.maxPages ≤ 100000 ∧ config.Reflects settings ∧ config.effectivePrompt = "" := by
  intro arguments others settings rearranged
  obtain ⟨written, compatible⟩ : Written arguments settings ∧ Compatible settings :=
    documented_reader.read_eq_run.1 (by decide)
  obtain ⟨otherwise, -⟩ : Written others rearranged ∧ Compatible rearranged :=
    documented_reader.read_eq_run.1 (by decide)
  have same : settings.Perm rearranged := by decide
  obtain ⟨accepted, configured⟩ := parse_exact documented_reader arguments
  obtain ⟨config, read⟩ := accepted.2 ⟨settings, written, compatible⟩
  obtain ⟨-, most, reflected⟩ := configured config read
  obtain ⟨reflects, silent, alike⟩ := reflected settings written
  exact ⟨documented_reader, written, compatible, otherwise, same, config, read,
    alike others rearranged otherwise same, most, reflects, silent.2 (.inr (by decide))⟩

end RowStore.CommandLine
