/-!
# Text without terminal controls

Messages repeat text from outside, which may hold control characters and the escape
sequences of terminals. Showing them plainly leaves out every control except white space,
and every escape sequence as far as it goes. White space that interrupts a sequence is
shown with the text behind it, up to the next control; whether the sequence then goes on
depends on the medium. A string is left out whole, up to its end.
-/

namespace RowStore.Text.Terminal

/-- A sequence that some characters have opened. -/
inductive Sequence where
  /-- An escape, whose kind is still open. -/
  | escape
  /-- An escape that waits for its final character. -/
  | intermediate
  /-- A control sequence with parameters. -/
  | parameters
  /-- A system command, which a bell ends. -/
  | command
  /-- A device string that has only been opened. -/
  | device
  /-- A device string within its parameters. -/
  | deviceParameters
  /-- A device string that waits for its final character. -/
  | deviceIntermediate
  /-- The body of a string, which the terminator ends. -/
  | string
  deriving DecidableEq, Repr

/-- What the characters read so far have opened. -/
inductive State where
  /-- Nothing. -/
  | plain
  /-- A sequence. -/
  | within (sequence : Sequence)
  /-- A sequence, but white space has interrupted it. -/
  | interrupted (sequence : Sequence)
  deriving DecidableEq, Repr

/-- What shows the characters. -/
inductive Medium where
  /-- A text: white space ends the sequence that it interrupts. -/
  | text
  /-- A stream: an interrupted sequence goes on at the next control, unless a character
  outside ASCII has ended it. -/
  | stream
  deriving DecidableEq, Repr

/-- Control characters that are shown: tab, line feed, form feed and carriage return. -/
def isShownControl (c : Char) : Bool := c == '\t' || c == '\n' || c == '\x0c' || c == '\r'

/-- Whether a character is an ASCII control. -/
def isControl (c : Char) : Bool := c.toNat < 0x20 || c.toNat == 0x7F

/-- Whether a character is shown outside any sequence. -/
def isShown (c : Char) : Bool := isShownControl c || !isControl c

/-- Whether the value of a character lies between two bounds. -/
def between (low high : Nat) (c : Char) : Bool := low ≤ c.toNat && c.toNat ≤ high

/-- Whether a character ends the body of a string: the terminator is the byte 0x9C, wherever
it occurs. -/
def holdsTerminator (c : Char) : Bool := (String.utf8EncodeChar c).contains 0x9C

namespace Sequence

/-- Whether a character interrupts a sequence. Strings are never interrupted. -/
def isInterruptedBy (c : Char) : Sequence → Bool
  | escape | intermediate | parameters => isShownControl c
  | command | device | deviceParameters | deviceIntermediate | string => false

/-- What a character opens right after an escape. -/
def opened (c : Char) : State :=
  if between 0x20 0x2F c then .within intermediate
  else if c = '[' then .within parameters
  else if c = ']' then .within command
  else if c = 'P' then .within device
  else if c = 'X' ∨ c = '^' ∨ c = '_' then .within string
  else if between 0x30 0x7E c then .plain
  else .within escape

/-- The state after a character that neither interrupts nor breaks off the sequence. -/
def next (c : Char) : Sequence → State
  | escape => opened c
  | intermediate => if between 0x30 0x7E c then .plain else .within intermediate
  | parameters => if between 0x40 0x7E c then .plain else .within parameters
  | command => if c = '\x07' then .plain else .within command
  | device =>
    if between 0x20 0x2F c then .within deviceIntermediate
    else if between 0x30 0x3F c then .within deviceParameters
    else if between 0x40 0x7E c then .within string
    else .within device
  | deviceParameters =>
    if between 0x20 0x2F c then .within deviceIntermediate
    else if between 0x3C 0x7E c then .within string
    else .within deviceParameters
  | deviceIntermediate =>
    if between 0x30 0x7E c then .within string else .within deviceIntermediate
  | string => if holdsTerminator c then .plain else .within string

end Sequence

/-- The state in which white space leaves a sequence. -/
def Medium.interrupt (medium : Medium) (sequence : Sequence) : State :=
  match medium with
  | .text => .plain
  | .stream => .interrupted sequence

/-- The state after a character, and whether the character is shown. An escape opens a new
sequence anywhere, and two controls break off any sequence. -/
def step (medium : Medium) (state : State) (c : Char) : State × Bool :=
  if c = '\x1b' then (.within .escape, false)
  else if c = '\x18' ∨ c = '\x1a' then (.plain, false)
  else
    match state with
    | .plain => (.plain, isShown c)
    | .within sequence =>
      if sequence.isInterruptedBy c then (medium.interrupt sequence, true)
      else (sequence.next c, false)
    | .interrupted sequence =>
      if !isShown c then (.within sequence, false)
      else (if c.toNat < 0x80 then .interrupted sequence else .plain, true)

/-- The characters shown, from a state on. -/
def shownFrom (medium : Medium) (state : State) : List Char → List Char
  | [] => []
  | c :: rest =>
    let (next, isShown) := step medium state c
    if isShown then c :: shownFrom medium next rest else shownFrom medium next rest

/-- The characters of a text that are shown. -/
def shown (medium : Medium) (text : List Char) : List Char := shownFrom medium .plain text

end RowStore.Text.Terminal
