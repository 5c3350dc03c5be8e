import RowStore.CommandLine.Option

/-!
# Items of the command line

Arguments are grouped into items before any of them is checked. A parameter takes its
value from behind an equals sign or from the next argument, unless that one begins with a
dash and is longer than the dash. Two dashes end the options, and nothing may follow.
-/

namespace RowStore.CommandLine

/-- The byte that begins options. -/
def dash : UInt8 := 0x2D

/-- The byte between a long name and its value. -/
def equals : UInt8 := 0x3D

/-- One item. -/
inductive Item where
  /-- A parameter with a value behind an equals sign. -/
  | attached (parameter : Parameter) (value : Argument)
  /-- A parameter whose value is the next argument, if that can be a value. -/
  | separate (parameter : Parameter) (value : Option Argument)
  /-- A flag. -/
  | flag (flag : Flag)
  /-- A flag with a value behind an equals sign. -/
  | flagWithValue (flag : Flag) (value : Argument)
  /-- An argument that fits nowhere, as far as it is reported. -/
  | stray (text : List Char)
  deriving DecidableEq, Repr

/-- What an argument is on its own. -/
inductive ArgumentKind where
  /-- The end of the options. -/
  | terminator
  /-- A parameter that waits for its value. -/
  | awaiting (parameter : Parameter)
  /-- A whole item. -/
  | item (item : Item)
  deriving DecidableEq, Repr

/-- Whether an argument can be the value of the parameter before it. -/
def Argument.isValue (argument : Argument) : Bool :=
  argument.head? != some dash || argument == [dash]

/-- An argument with one dash is one or more letters, and the first decides. -/
def letters (argument : Argument) : Item :=
  match Text.Utf8.scan argument with
  | some 'h' :: _ => .flag .help
  | some 'V' :: _ => .flag .version
  | some c :: _ => .stray ['-', c]
  | _ => .stray ('-' :: Text.Utf8.decodeLossy argument)

/-- An argument with two dashes is a long name, perhaps with a value. -/
def long (argument : Argument) : ArgumentKind :=
  let name := argument.takeWhile (· != equals)
  match OptionName.ofLongName? name, argument.dropWhile (· != equals) with
  | some (.parameter parameter), [] => .awaiting parameter
  | some (.parameter parameter), _ :: value => .item (.attached parameter value)
  | some (.flag flag), [] => .item (.flag flag)
  | some (.flag flag), _ :: value => .item (.flagWithValue flag value)
  | none, _ => .item (.stray ('-' :: '-' :: Text.Utf8.decodeLossy name))

/-- What an argument is on its own, by its first two bytes. -/
def Argument.kind (argument : Argument) : ArgumentKind :=
  match argument with
  | first :: second :: rest =>
    if first ≠ dash then .item (.stray (Text.Utf8.decodeLossy argument))
    else if second ≠ dash then .item (letters (second :: rest))
    else if rest.isEmpty then .terminator
    else long rest
  | _ => .item (.stray (Text.Utf8.decodeLossy argument))

/-- The items of a list of arguments. -/
def items : List Argument → List Item
  | [] => []
  | argument :: rest =>
    match argument.kind with
    | .terminator => rest.map fun argument => .stray (Text.Utf8.decodeLossy argument)
    | .item item => item :: items rest
    | .awaiting parameter =>
      match rest with
      | [] => [.separate parameter none]
      | value :: later =>
        if value.isValue then .separate parameter (some value) :: items later
        else .separate parameter none :: items (value :: later)

end RowStore.CommandLine
