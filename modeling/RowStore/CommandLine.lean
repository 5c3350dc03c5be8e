import RowStore.CommandLine.Error
import RowStore.CommandLine.Item

/-!
# The command line

Items are checked from left to right and the first fault is reported. One rule looks
ahead: a parameter with a separate value is checked only once the next argument is known
to fit, so that an argument that fits nowhere is reported first. Options that exclude each
other are looked for at the end.
-/

namespace RowStore.CommandLine

/-- One option as it was accepted. -/
inductive Setting where
  | maxPages (count : Nat)
  | prompt (text : String)
  | noPrompt
  | logLevel (filter : String)
  deriving DecidableEq, Repr

namespace Setting

/-- The option that was set. -/
def option : Setting → OptionName
  | .maxPages _ => .parameter .maxPages
  | .prompt _ => .parameter .prompt
  | .noPrompt => .flag .noPrompt
  | .logLevel _ => .parameter .logLevel

/-- The page limit, if that was set. -/
def pageLimit? : Setting → Option Nat
  | .maxPages count => some count
  | _ => none

/-- The prompt, if that was set. -/
def promptText? : Setting → Option String
  | .prompt text => some text
  | _ => none

/-- The log filter, if that was set. -/
def filterText? : Setting → Option String
  | .logLevel filter => some filter
  | _ => none

end Setting

/-- The setting that a parameter and its text make. -/
def Parameter.set (parameter : Parameter) (text : String) : Except UsageError Setting :=
  match parameter with
  | .maxPages =>
    match pageCount text with
    | .ok count => .ok (.maxPages count)
    | .error reason => .error (.invalidPageCount text reason)
  | .prompt => .ok (.prompt text)
  | .logLevel => .ok (.logLevel text)

/-- Whether an option is among the settings. -/
def isGiven (option : OptionName) (given : List Setting) : Bool :=
  given.any fun setting => setting.option == option

/-- Accept a parameter: it needs a value, may come once, and its value must be text. -/
def acceptParameter (given : List Setting) (parameter : Parameter) (value : Option Argument) :
    Except UsageError Setting :=
  match value with
  | none => .error (.missingValue parameter)
  | some bytes =>
    if isGiven (.parameter parameter) given then .error (.repeated (.parameter parameter))
    else
      match Text.Utf8.decode? bytes with
      | none => .error .invalidUtf8
      | some text => parameter.set (.ofList text)

/-- The fault of an item that fits nowhere. -/
def Item.misfit? : Item → Option UsageError
  | .stray text => some (.unexpectedArgument (.ofList text))
  | .flagWithValue option value =>
    some (.unexpectedValue option (.ofList (Text.Utf8.decodeLossy value)))
  | _ => none

/-- What a command line asks for. -/
inductive Request (α : Type) where
  /-- To run with the given settings. -/
  | run (settings : α)
  /-- To be told how to use the program. -/
  | help
  /-- To be told the version. -/
  | version
  deriving DecidableEq, Repr

/-- Check items behind those already accepted. -/
def accept (given : List Setting) : List Item → Except UsageError (Request (List Setting))
  | [] => .ok (.run given)
  | .attached parameter value :: rest =>
    match acceptParameter given parameter (some value) with
    | .error error => .error error
    | .ok setting => accept (given ++ [setting]) rest
  | .separate parameter value :: rest =>
    match rest.head?.bind Item.misfit? with
    | some error => .error error
    | none =>
      match acceptParameter given parameter value with
      | .error error => .error error
      | .ok setting => accept (given ++ [setting]) rest
  | .flag .help :: _ => .ok .help
  | .flag .version :: _ => .ok .version
  | .flag .noPrompt :: rest =>
    if isGiven (.flag .noPrompt) given then .error (.repeated (.flag .noPrompt))
    else accept (given ++ [.noPrompt]) rest
  | .flagWithValue flag value :: _ =>
    .error (.unexpectedValue flag (.ofList (Text.Utf8.decodeLossy value)))
  | .stray text :: _ => .error (.unexpectedArgument (.ofList text))

/-- The first of the given options that excludes another one. -/
def conflict? (given : List Setting) : Option UsageError :=
  given.findSome? fun setting =>
    (given.find? fun other => setting.option.excludes other.option).map fun other =>
      .conflict setting.option other.option

/-- The prompt when none is given. -/
def defaultPrompt : String := "db > "

/-- The environment variable that holds a log filter. -/
def logVariable : String := "DBTOY_LOG"

/-- What the settings amount to. -/
structure Config where
  /-- Most pages of the table. -/
  maxPages : Nat
  /-- The prompt, given or not. -/
  prompt : String
  /-- Whether no prompt is wanted. -/
  noPrompt : Bool
  /-- The log filter, if one is given. -/
  logLevel : Option String
  deriving DecidableEq, Repr

namespace Config

/-- Settings in any order, with defaults for those not given. -/
def ofSettings (given : List Setting) : Config where
  maxPages := (given.findSome? Setting.pageLimit?).getD Layout.defaultMaxPages
  prompt := (given.findSome? Setting.promptText?).getD defaultPrompt
  noPrompt := isGiven (.flag .noPrompt) given
  logLevel := given.findSome? Setting.filterText?

/-- The prompt that is written. -/
def effectivePrompt (config : Config) : String := if config.noPrompt then "" else config.prompt

end Config

/-- A way to read command lines: what the arguments set, in their order, unless they ask for
something else or are refused. -/
structure ArgumentReader where
  /-- What a list of arguments asks for. -/
  read : List Argument → Except UsageError (Request (List Setting))

/-- What a command line asks for, with the configuration that its settings amount to. -/
def ArgumentReader.parse (reader : ArgumentReader) (arguments : List Argument) :
    Except UsageError (Request Config) :=
  match reader.read arguments with
  | .error error => .error error
  | .ok .help => .ok .help
  | .ok .version => .ok .version
  | .ok (.run given) => .ok (.run (.ofSettings given))

/-- Arguments are grouped into items, these are checked in order, and conflicts are looked for
among what they set. -/
def reader : ArgumentReader where
  read := fun arguments =>
    match accept [] (items arguments) with
    | .ok (.run given) =>
      match conflict? given with
      | some error => .error error
      | none => .ok (.run given)
    | answer => answer

/-- Read a command line. -/
def parse (arguments : List Argument) : Except UsageError (Request Config) :=
  reader.parse arguments

end RowStore.CommandLine
