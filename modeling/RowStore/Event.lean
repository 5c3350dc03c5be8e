import RowStore.Statement.Outcome

/-!
# Log events

What a session reports about itself: an event comes from one part of the program, which
log filters name, and has a level of detail.
-/

namespace RowStore

/-- Levels of detail, the most urgent first. -/
inductive Level where
  | error
  | warn
  | info
  | debug
  | trace
  deriving DecidableEq, Repr

namespace Level

/-- Place in the order of detail. -/
def rank : Level → Nat
  | .error => 1
  | .warn => 2
  | .info => 3
  | .debug => 4
  | .trace => 5

/-- The level as a log line shows it. -/
def label : Level → String
  | .error => "ERROR"
  | .warn => "WARN"
  | .info => "INFO"
  | .debug => "DEBUG"
  | .trace => "TRACE"

end Level

/-- Something worth a line in the log. -/
inductive Event where
  /-- A session begins. -/
  | sessionStarted (maxRows : Nat)
  /-- A statement is about to be carried out. -/
  | executing (statement : Statement) (rows : Nat)
  /-- The storage layers report. -/
  | storage (event : StorageEvent)
  /-- The input is used up. -/
  | endOfInput
  /-- A session ended in good order. -/
  | sessionEnded (rows pages : Nat)
  deriving DecidableEq, Repr

namespace Event

/-- The part of the program that reports the event, as log filters name it. -/
def target : Event → String
  | .sessionStarted _ | .endOfInput | .sessionEnded .. => "dbtoy::repl"
  | .executing .. => "dbtoy::executor"
  | .storage (.allocating _) | .storage (.wrote ..) => "dbtoy::pager"
  | .storage (.insertRejected _) | .storage (.scanStopped ..) => "dbtoy::table"

/-- The level of detail of the event. -/
def level : Event → Level
  | .sessionStarted _ | .endOfInput | .sessionEnded .. => .info
  | .executing .. | .storage (.allocating _) | .storage (.insertRejected _) => .debug
  | .storage (.wrote ..) => .trace
  | .storage (.scanStopped ..) => .error

end Event

end RowStore
