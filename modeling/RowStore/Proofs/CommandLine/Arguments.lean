import Mathlib.Data.List.Basic
import RowStore.Proofs.CommandLine.Reader

/-!
# Arguments of the command line

A parameter is written in one of two ways: its name alone, where the value is the next argument,
or its name and the value with an equals sign between them. The wish for no prompt is a name alone,
and two dashes without a name end the options. Each of these is read as what it is, and every other
argument sets nothing.
-/

namespace RowStore.CommandLine

/-- The item sets nothing: it asks for help or the version, or fits nowhere. -/
inductive Item.Other : Item → Prop where
  | flag {flag : Flag} (asks : flag ≠ .noPrompt) : Other (.flag flag)
  | flagWithValue (flag : Flag) (value : Argument) : Other (.flagWithValue flag value)
  | stray (text : List Char) : Other (.stray text)

/-- How an argument is written that is read as a certain kind. Of what sets nothing it is said only
that any argument may be read so. -/
inductive Reads : Argument → ArgumentKind → Prop where
  | terminator : Reads [dash, dash] .terminator
  | awaiting (parameter : Parameter) : Reads parameter.spelled (.awaiting parameter)
  | attached (parameter : Parameter) (value : Argument) :
      Reads (parameter.spelledWith value) (.item (.attached parameter value))
  | noPrompt : Reads Flag.noPrompt.spelled (.item (.flag .noPrompt))
  | other (argument : Argument) {item : Item} (idle : item.Other) : Reads argument (.item item)

/-- An option is found by its name alone. -/
theorem ofLongName?_eq_some {name : Argument} {option : OptionName} :
    OptionName.ofLongName? name = some option ↔ name = Text.Utf8.encode option.longName.toList := by
  constructor
  · intro found
    have same := List.find?_some found
    exact (beq_iff_eq.1 same).symm
  · rintro rfl
    rcases option with parameter | flag
    · cases parameter <;> decide
    · cases flag <;> decide

/-- Behind two dashes a name is read, and perhaps a value. -/
theorem kind_dashes {rest : Argument} (some : rest ≠ []) :
    Argument.kind (dash :: dash :: rest) = long rest := by
  simp [Argument.kind, some]

/-- What is read behind two dashes is written as its kind says. -/
theorem reads_long (rest : Argument) : Reads (dash :: dash :: rest) (long rest) := by
  have joined := List.takeWhile_append_dropWhile (p := (· != equals)) (l := rest)
  rw [long]
  split
  · next parameter found ended =>
    rw [ended, List.append_nil, ofLongName?_eq_some.1 found] at joined
    rw [← joined]
    exact .awaiting parameter
  · next parameter first value found ended =>
    have separator : first = equals := by
      have head := List.head?_dropWhile_not (· != equals) rest
      rw [ended] at head
      simpa using head
    rw [ended, separator, ofLongName?_eq_some.1 found] at joined
    rw [← joined]
    exact .attached parameter value
  · next flag found ended =>
    rw [ended, List.append_nil, ofLongName?_eq_some.1 found] at joined
    rw [← joined]
    by_cases noPrompt : flag = .noPrompt
    · rw [noPrompt]
      exact .noPrompt
    · exact .other _ (.flag noPrompt)
  · exact .other _ (.flagWithValue _ _)
  · exact .other _ (.stray _)

/-- An argument with one dash sets nothing. -/
theorem other_letters (argument : Argument) : (letters argument).Other := by
  rw [letters]
  split
  · exact .flag (by decide)
  · exact .flag (by decide)
  · exact .stray _
  · exact .stray _

/-- Each argument is written as its kind says. -/
theorem reads_kind (argument : Argument) : Reads argument argument.kind := by
  rw [Argument.kind.eq_def]
  split
  · next first second rest =>
    split
    · exact .other _ (.stray _)
    · next one =>
      split
      · exact .other _ (other_letters _)
      · next two =>
        obtain rfl : first = dash := Classical.not_not.1 one
        obtain rfl : second = dash := Classical.not_not.1 two
        split
        · next ended =>
          obtain rfl : rest = [] := List.isEmpty_iff.1 ended
          exact .terminator
        · exact reads_long rest
  · exact .other _ (.stray _)

/-- A parameter by itself waits for its value. -/
theorem kind_spelled (parameter : Parameter) : parameter.spelled.kind = .awaiting parameter := by
  cases parameter <;> decide

/-- A parameter with a value behind an equals sign is a whole item. -/
theorem kind_spelledWith (parameter : Parameter) (value : Argument) :
    (parameter.spelledWith value).kind = .item (.attached parameter value) := by
  have clean : equals ∉ parameter.nameBytes := by cases parameter <;> decide
  have plain : ∀ byte ∈ parameter.nameBytes, (byte != equals) = true := by
    intro byte member
    rw [bne_iff_ne]
    rintro rfl
    exact clean member
  have behind : parameter.nameBytes ++ equals :: value ≠ [] := by simp
  have read : (parameter.spelledWith value).kind =
      long (parameter.nameBytes ++ equals :: value) := kind_dashes behind
  have name : (parameter.nameBytes ++ equals :: value).takeWhile (· != equals) =
      parameter.nameBytes := by
    rw [List.takeWhile_append_of_pos plain]
    simp
  have rest : (parameter.nameBytes ++ equals :: value).dropWhile (· != equals) =
      equals :: value := by
    rw [List.dropWhile_append_of_pos plain]
    simp
  have found : OptionName.ofLongName? parameter.nameBytes = some (.parameter parameter) :=
    ofLongName?_eq_some.2 rfl
  rw [read, long, name, rest, found]

/-- The wish for no prompt is a whole item. -/
theorem kind_noPrompt : Flag.noPrompt.spelled.kind = .item (.flag .noPrompt) := by decide

/-- An argument begins with a parameter and an equals sign when these give the parameter a value. -/
theorem spelledWith_nil_prefix {argument : Argument} {parameter : Parameter} :
    parameter.spelledWith [] <+: argument ↔ ∃ value, argument = parameter.spelledWith value := by
  simp [List.prefix_iff_exists_append_eq, Parameter.spelledWith, eq_comm]

end RowStore.CommandLine
