import RowStore.CommandLine.Option
import RowStore.Layout
import RowStore.Text.Numeral
import RowStore.Text.Terminal

/-!
# Refused command lines

The reasons for which a command line is refused, and the one line that reports each.
-/

namespace RowStore.CommandLine

/-- Most pages that can be asked for. -/
def mostPages : Nat := 100000

/-- Why a text gives no page limit. -/
inductive PageCountError where
  /-- It is no unsigned numeral that a size can hold. -/
  | notACount
  /-- The count is zero or too large. -/
  | outOfRange
  deriving DecidableEq, Repr

/-- The report of a refused page limit. -/
def PageCountError.message (value : String) : PageCountError → String
  | .notACount => "`" ++ value ++ "` is not a page count"
  | .outOfRange => "must be between 1 and " ++ mostPages.repr

/-- The page limit that a text gives. -/
def pageCount (value : String) : Except PageCountError Nat :=
  match Text.naturalUpTo? Layout.largestSize value.toList with
  | none => .error .notACount
  | some count =>
    if 1 ≤ count ∧ count ≤ mostPages then .ok count else .error .outOfRange

/-- Why a command line is refused. -/
inductive UsageError where
  /-- The value of the page limit is no page count. -/
  | invalidPageCount (value : String) (reason : PageCountError)
  /-- A parameter has no value. -/
  | missingValue (parameter : Parameter)
  /-- An argument fits nowhere. -/
  | unexpectedArgument (text : String)
  /-- A flag has a value. -/
  | unexpectedValue (flag : Flag) (value : String)
  /-- Two options exclude each other; the first was given first. -/
  | conflict (first second : OptionName)
  /-- An option is given twice. -/
  | repeated (option : OptionName)
  /-- A value is not UTF-8. -/
  | invalidUtf8
  deriving DecidableEq, Repr

namespace UsageError

/-- The parts of the report before its last one, and the last. A control sequence left open
in one part does not reach into the next. -/
def wording : UsageError → List String × String
  | .invalidPageCount value reason =>
    (["invalid value '", value],
      "' for '" ++ (OptionName.parameter .maxPages).label ++ "': " ++ reason.message value)
  | .missingValue parameter =>
    ([], "a value is required for '" ++ (OptionName.parameter parameter).label ++
      "' but none was supplied")
  | .unexpectedArgument text => (["unexpected argument '", text], "' found")
  | .unexpectedValue flag value =>
    (["unexpected value '", value],
      "' for '" ++ (OptionName.flag flag).label ++ "' found; no more were expected")
  | .conflict first second =>
    ([], "the argument '" ++ first.label ++ "' cannot be used with '" ++ second.label ++ "'")
  | .repeated option => ([], "the argument '" ++ option.label ++ "' cannot be used multiple times")
  | .invalidUtf8 => ([], "invalid UTF-8 was detected in one or more arguments")

/-- The parts of the report and of the hint below it. The hint opens in the last part of the
report, so a string left open there swallows the line ends between them. -/
def parts (error : UsageError) : List String :=
  error.wording.1 ++ [error.wording.2 ++ "\n\nFor more information, try '", "--help'.\n"]

/-- The report and the hint, as a medium shows them without terminal controls. -/
def message (medium : Text.Terminal.Medium) (error : UsageError) : String :=
  "error: " ++ .ofList (error.parts.flatMap fun part => Text.Terminal.shown medium part.toList)

end UsageError

end RowStore.CommandLine
