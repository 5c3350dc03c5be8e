import RowStore.CommandLine

/-!
# Readers of command lines

A reader of command lines is a parameter of the program and carries no laws. The usual syntax of
long options is a predicate of a reader instead, `ArgumentReader.Documented`: each law says how one
argument is read in front of any others. The names of the options, what their values set and which
options exclude each other are those declared, and the laws are the same whatever is declared.
-/

namespace RowStore.CommandLine

/-- The name of a parameter as bytes, without dashes. -/
def Parameter.nameBytes (parameter : Parameter) : Argument :=
  Text.Utf8.encode parameter.longName.toList

/-- The argument that names a parameter whose value is the next argument. -/
def Parameter.spelled (parameter : Parameter) : Argument := dash :: dash :: parameter.nameBytes

/-- The argument that names a parameter and gives its value. -/
def Parameter.spelledWith (parameter : Parameter) (value : Argument) : Argument :=
  parameter.spelled ++ equals :: value

/-- The argument that names a flag. -/
def Flag.spelled (flag : Flag) : Argument :=
  dash :: dash :: Text.Utf8.encode flag.longName.toList

/-- A value that can be an argument by itself: it does not begin with a dash and go on. -/
def Argument.Plain (value : Argument) : Prop := [dash] <+: value → value = [dash]

/-- What a flag sets that is no request by itself. -/
inductive Flag.Sets : Flag → Setting → Prop where
  | noPrompt : Sets .noPrompt .noPrompt

/-- What a parameter sets by its value, which is the UTF-8 of a text that the parameter accepts. -/
def Parameter.Sets (parameter : Parameter) (value : Argument) (setting : Setting) : Prop :=
  ∃ text : String, value = Text.Utf8.encode text.toList ∧ parameter.set text = .ok setting

/-- Two settings that can be given together. -/
structure Setting.Tolerates (setting other : Setting) : Prop where
  /-- They are for different options, as no option can be given twice. -/
  different : setting.option ≠ other.option
  /-- Neither of the options is declared to exclude the other. -/
  together : ¬setting.option.excludes other.option

namespace ArgumentReader

/-- A setting is read in front of the arguments behind it: these are accepted by themselves, and
the setting can be given together with each that they make. -/
def Adds (reader : ArgumentReader) (setting : Setting) (behind : List Argument)
    (given : List Setting) : Prop :=
  ∃ others, reader.read behind = .ok (.run others) ∧ given = setting :: others ∧
    ∀ other ∈ others, setting.Tolerates other

/-- A reader that keeps to the usual syntax of long options. An option can be given anywhere, but
once, and not together with one that it excludes or that excludes it. -/
structure Documented (reader : ArgumentReader) : Prop where
  /-- No option needs to be given. -/
  nothing : reader.read [] = .ok (.run [])
  /-- Two dashes end the options, and other arguments than options are not accepted. -/
  ended : ∀ rest given, reader.read ([dash, dash] :: rest) = .ok (.run given) ↔
    rest = [] ∧ given = []
  /-- A flag is given by its name. -/
  flag : ∀ flag setting rest given, Flag.Sets flag setting →
    (reader.read (flag.spelled :: rest) = .ok (.run given) ↔ reader.Adds setting rest given)
  /-- The value of a parameter can stand behind its name and an equals sign. -/
  attached : ∀ parameter value rest given,
    reader.read (Parameter.spelledWith parameter value :: rest) = .ok (.run given) ↔
      ∃ setting, parameter.Sets value setting ∧ reader.Adds setting rest given
  /-- The value of a parameter can be the next argument, unless that looks like an option. -/
  separate : ∀ parameter rest given,
    reader.read (Parameter.spelled parameter :: rest) = .ok (.run given) ↔
      ∃ value later setting, rest = value :: later ∧ value.Plain ∧
        parameter.Sets value setting ∧ reader.Adds setting later given
  /-- An argument that is written in another way is not accepted. -/
  written : ∀ argument rest given, reader.read (argument :: rest) = .ok (.run given) →
    argument = [dash, dash] ∨
      (∃ flag setting, Flag.Sets flag setting ∧ argument = flag.spelled) ∨
      ∃ parameter : Parameter, argument = parameter.spelled ∨
        ∃ value, argument = parameter.spelledWith value

end ArgumentReader

/-- The page limit is set by the texts that are read as a page count. -/
theorem set_maxPages_eq_ok {text : String} {setting : Setting} :
    Parameter.maxPages.set text = .ok setting ↔
      ∃ count, pageCount text = .ok count ∧ setting = .maxPages count := by
  rw [Parameter.set]
  constructor
  · intro set
    split at set
    · next count read =>
      cases set
      exact ⟨count, read, rfl⟩
    · cases set
  · rintro ⟨count, read, rfl⟩
    rw [read]

/-- A parameter sets its own option. -/
theorem Parameter.Sets.option_eq {parameter : Parameter} {value : Argument} {setting : Setting}
    (sets : parameter.Sets value setting) : setting.option = .parameter parameter := by
  obtain ⟨text, -, set⟩ := sets
  cases parameter with
  | maxPages =>
    obtain ⟨count, -, rfl⟩ := set_maxPages_eq_ok.1 set
    rfl
  | prompt =>
    cases set
    rfl
  | logLevel =>
    cases set
    rfl

/-- A command line is read as one to run with exactly if it makes settings, and then as what these
amount to. -/
theorem ArgumentReader.parse_eq_run {reader : ArgumentReader} {arguments : List Argument}
    {config : Config} :
    reader.parse arguments = .ok (.run config) ↔
      ∃ given, reader.read arguments = .ok (.run given) ∧ config = .ofSettings given := by
  rw [parse]
  constructor
  · intro read
    split at read
    · cases read
    · cases read
    · cases read
    · next given accepted =>
      cases read
      exact ⟨given, accepted, rfl⟩
  · rintro ⟨given, accepted, rfl⟩
    rw [accepted]

end RowStore.CommandLine
