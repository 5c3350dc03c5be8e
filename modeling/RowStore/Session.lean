import RowStore.Event
import RowStore.Session.Sink

/-!
# Sessions

A session takes its input one byte at a time. It writes a prompt, collects a line up to
its line feed, carries the line out, writes the answer and prompts again, until it is told
to leave, the input ends or fails, or the sink refuses a byte. Input that ends within a
line makes that line complete; input that fails drops it.
-/

namespace RowStore

/-- Why a session breaks off. -/
inductive Fault where
  /-- The input failed. -/
  | readFailed
  /-- The sink did not accept every byte. -/
  | writeRefused
  deriving DecidableEq, Repr

/-- The report of a fault. -/
def Fault.message : Fault → String
  | .readFailed => "read failed"
  | .writeRefused => "failed to write whole buffer"

/-- How the input behaves after its last byte. -/
inductive Ending where
  | endOfInput
  | failure
  deriving DecidableEq, Repr

/-- Where a session stands. -/
inductive Phase where
  /-- It waits for input. -/
  | reading
  /-- It came to its end in good order. -/
  | done
  /-- It broke off. -/
  | broken (fault : Fault)
  deriving DecidableEq, Repr

/-- What outlasts a session and serves the next one. -/
structure Console where
  /-- Text written before each line is read. -/
  prompt : String
  /-- Bytes of the line that was read last. -/
  buffer : Array UInt8 := #[]

/-- A session between two bytes of input. -/
structure Session where
  /-- Prompt and line buffer. -/
  console : Console
  /-- The table that statements work on. -/
  table : Table
  /-- Where answers go. -/
  sink : Sink
  /-- Events so far. -/
  log : Array Event
  /-- Where the session stands. -/
  phase : Phase

namespace Session

/-- The byte that ends a line. -/
def lineFeed : UInt8 := 10

/-- Write bytes, or break off. -/
def emit (session : Session) (bytes : List UInt8) : Session :=
  let (sink, complete) := session.sink.write bytes
  { session with
    sink
    phase := if complete then session.phase else .broken .writeRefused }

/-- Prompt for a line, and forget the one before. -/
def ask (session : Session) : Session :=
  let prompted := session.emit (Text.Utf8.encode session.console.prompt.toList)
  match prompted.phase with
  | .reading => { prompted with console := { prompted.console with buffer := #[] } }
  | _ => prompted

/-- A session on a table, with its first prompt. -/
def start (console : Console) (table : Table) (room : Option Nat) : Session :=
  let session : Session :=
    { console, table, sink := ⟨#[], room⟩, log := #[.sessionStarted table.capacity],
      phase := .reading }
  session.ask

/-- Carry out the line in the buffer. -/
def execute (session : Session) : Session :=
  let statement := Statement.ofChars (Text.Utf8.decodeLossy session.console.buffer.toList)
  let reply := statement.execute session.table
  let executed : Session :=
    { session with
      table := reply.state
      log := session.log.push (.executing statement session.table.size) ++
        (reply.events.map Event.storage).toArray }
  let answered := executed.emit (Text.Utf8.encode reply.answer.chars)
  match answered.phase, reply.answer.control with
  | .reading, .proceed => answered.ask
  | .reading, .stop => { answered with phase := .done }
  | _, _ => answered

/-- Take one byte of input; after the end of the session it has no effect. -/
def feed (session : Session) (byte : UInt8) : Session :=
  match session.phase with
  | .reading =>
    let collected := { session with console.buffer := session.console.buffer.push byte }
    if byte = lineFeed then collected.execute else collected
  | _ => session

/-- Take the end of the input while waiting for a line that has not begun. -/
def endOfInput (session : Session) : Session :=
  match session.phase with
  | .reading => { session with log := session.log.push .endOfInput, phase := .done }
  | _ => session

/-- Learn that no more bytes come. -/
def finish (session : Session) (ending : Ending) : Session :=
  match session.phase, ending with
  | .reading, .failure => { session with phase := .broken .readFailed }
  | .reading, .endOfInput =>
    if session.console.buffer.isEmpty then session.endOfInput
    else session.execute.endOfInput
  | _, _ => session

/-- Report a session that came to its end in good order. -/
def close (session : Session) : Session :=
  match session.phase with
  | .done =>
    { session with
      log := session.log.push (.sessionEnded session.table.size session.table.pages.count) }
  | _ => session

/-- How the session came out. -/
def result (session : Session) : Except Fault Unit :=
  match session.phase with
  | .broken fault => .error fault
  | _ => .ok ()

/-- A whole session: all of the input, then its ending. -/
def run (console : Console) (table : Table) (input : List UInt8) (ending : Ending)
    (room : Option Nat) : Session :=
  ((input.foldl feed (start console table room)).finish ending).close

end Session

end RowStore
