import RowStore.Text.Utf8

/-!
# Options of the command line

Parameters take a value and flags take none. Messages name a parameter together with a
placeholder for its value. That two options exclude each other is declared of one of them.
-/

namespace RowStore.CommandLine

/-- An argument as it arrives: bytes, not always text. -/
abbrev Argument := List UInt8

/-- Options that take a value. -/
inductive Parameter where
  | maxPages
  | prompt
  | logLevel
  deriving DecidableEq, Repr

/-- Options that take no value. -/
inductive Flag where
  | noPrompt
  | help
  | version
  deriving DecidableEq, Repr

/-- An option of either kind. -/
inductive OptionName where
  | parameter (parameter : Parameter)
  | flag (flag : Flag)
  deriving DecidableEq, Repr

/-- The long name of a parameter, without dashes. -/
def Parameter.longName : Parameter → String
  | .maxPages => "max-pages"
  | .prompt => "prompt"
  | .logLevel => "log-level"

/-- What stands for the value in messages. -/
def Parameter.placeholder : Parameter → String
  | .maxPages => "<N>"
  | .prompt => "<TEXT>"
  | .logLevel => "<FILTER>"

/-- The long name of a flag, without dashes. -/
def Flag.longName : Flag → String
  | .noPrompt => "no-prompt"
  | .help => "help"
  | .version => "version"

/-- The option as messages name it. -/
def OptionName.label : OptionName → String
  | .parameter option => "--" ++ option.longName ++ " " ++ option.placeholder
  | .flag option => "--" ++ option.longName

/-- All options. -/
def OptionName.all : List OptionName :=
  [.parameter .maxPages, .parameter .prompt, .flag .noPrompt, .parameter .logLevel,
   .flag .help, .flag .version]

/-- The long name of an option, without dashes. -/
def OptionName.longName : OptionName → String
  | .parameter option => option.longName
  | .flag option => option.longName

/-- The options that an option is declared to exclude. -/
def OptionName.conflicts : OptionName → List OptionName
  | .parameter .prompt => [.flag .noPrompt]
  | _ => []

/-- Whether two options exclude each other, as one of them is declared to. -/
def OptionName.excludes (option other : OptionName) : Bool :=
  option.conflicts.contains other || other.conflicts.contains option

/-- The option with a long name, spelled in full. -/
def OptionName.ofLongName? (name : Argument) : Option OptionName :=
  OptionName.all.find? fun option => Text.Utf8.encode option.longName.toList == name

end RowStore.CommandLine
