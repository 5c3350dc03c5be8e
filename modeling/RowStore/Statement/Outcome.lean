import RowStore.Statement
import RowStore.Table.Scan

/-!
# Outcomes

A statement is carried out on a table and answered with lines of text. Every failure is
an answer: only the command to leave ends the session.
-/

namespace RowStore

/-- Whether the session reads on. -/
inductive Control where
  | proceed
  | stop
  deriving DecidableEq, Repr

/-- The answer to a statement. -/
structure Outcome where
  /-- Lines to show, without their ends. -/
  lines : List String
  /-- Whether the session reads on. -/
  control : Control
  deriving DecidableEq, Repr

namespace Outcome

/-- The last line of a statement that succeeded. -/
def executed : String := "Executed."

/-- An answer of one line. -/
def line (text : String) : Outcome := ⟨[text], .proceed⟩

/-- The characters of the answer: every line is ended by a line feed. -/
def chars (outcome : Outcome) : List Char :=
  outcome.lines.flatMap fun line => line.toList ++ ['\n']

end Outcome

/-- Carry out a statement. -/
def Statement.execute (statement : Statement) (table : Table) :
    Reply Table Outcome StorageEvent :=
  match statement with
  | .insert row =>
    let stored := table.insert row
    match stored.answer with
    | .ok () => ⟨.line Outcome.executed, stored.state, stored.events⟩
    | .error error => ⟨.line ("Error: " ++ error.message ++ "."), stored.state, stored.events⟩
  | .select =>
    let rows := table.scan.drain
    ⟨⟨rows.answer.map Row.display ++ [Outcome.executed], .proceed⟩, table, rows.events⟩
  | .exit => ⟨⟨[], .stop⟩, table, []⟩
  | .unrecognized text => ⟨.line ("Unrecognized command '" ++ text ++ "'."), table, []⟩
  | .malformed reason => ⟨.line ("Syntax error: " ++ reason.message ++ "."), table, []⟩

/-- Only the command to leave stops a session. -/
theorem Statement.control_eq_stop_iff {statement : Statement} {table : Table} :
    (statement.execute table).answer.control = .stop ↔ statement = .exit := by
  cases statement with
  | insert row =>
    cases stored : (table.insert row).answer <;> simp [execute, stored, Outcome.line]
  | select => simp [execute]
  | exit => simp [execute]
  | unrecognized text => simp [execute, Outcome.line]
  | malformed reason => simp [execute, Outcome.line]

/-- Behind any other statement a session reads on. -/
theorem Statement.control_eq_proceed {statement : Statement} {table : Table}
    (stays : statement ≠ .exit) : (statement.execute table).answer.control = .proceed := by
  cases control : (statement.execute table).answer.control with
  | proceed => rfl
  | stop => exact absurd (control_eq_stop_iff.1 control) stays

end RowStore
