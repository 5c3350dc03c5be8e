import RowStore.Proofs.Table.Representation
import RowStore.Statement.Outcome

/-!
# Scripts

A script is a list of statements that are carried out in order, and its answers are kept beside
it. Only an insertion that is answered as executed changes the table. Every other statement can
be left out of a script: the answers to the remaining ones and the table at the end stay the same.
-/

namespace RowStore

/-- A statement that was carried out, with its answer. -/
structure Exchange where
  statement : Statement
  answer : Outcome
  deriving DecidableEq

/-- A row was stored: the statement is an insertion and was answered as executed. -/
def Exchange.Stores (exchange : Exchange) : Prop :=
  (∃ row, exchange.statement = .insert row) ∧ exchange.answer.lines = ["Executed."]

namespace Table

/-- The table after a script. -/
def after (table : Table) (script : List Statement) : Table :=
  script.foldl (fun table statement => (statement.execute table).state) table

/-- The statements of a script with their answers. -/
def exchanges : Table → List Statement → List Exchange
  | _, [] => []
  | table, statement :: later =>
    ⟨statement, (statement.execute table).answer⟩ ::
      (statement.execute table).state.exchanges later

end Table

/-- Carrying out an insertion changes the table as the insertion does. -/
theorem Statement.state_execute_insert (row : Row) (table : Table) :
    ((Statement.insert row).execute table).state = (table.insert row).state := by
  cases answered : (table.insert row).answer with
  | ok => simp only [execute, answered]
  | error error => simp only [execute, answered]

/-- An insertion that succeeds is answered as executed. -/
theorem Statement.answer_execute_insert {row : Row} {table : Table}
    (stored : (table.insert row).answer = .ok ()) :
    ((Statement.insert row).execute table).answer = .line "Executed." := by
  simp only [execute, stored, Outcome.executed]

/-- An insertion that is refused is answered with the report of the error. -/
theorem Statement.answer_execute_insert_refused {row : Row} {table : Table} {error : TableError}
    (refused : (table.insert row).answer = .error error) :
    ((Statement.insert row).execute table).answer = .line ("Error: " ++ error.message ++ ".") := by
  simp only [execute, refused]

/-- A statement leaves the table as it was, unless it stores a row. -/
theorem Statement.unchanged_of_not_stores {statement : Statement} {table : Table}
    (idle : ¬Exchange.Stores ⟨statement, (statement.execute table).answer⟩) :
    (statement.execute table).state = table := by
  cases statement with
  | insert row =>
    have refused : (table.insert row).answer ≠ .ok () := fun stored =>
      idle ⟨⟨row, rfl⟩, by rw [answer_execute_insert stored, Outcome.line]⟩
    rw [state_execute_insert, table.insert_unchanged refused]
  | select => rfl
  | exit => rfl
  | unrecognized text => rfl
  | malformed reason => rfl

/-- What remains of a list when the entries at some places are left out. -/
def without {α : Type} (omitted : Nat → Bool) : List α → List α
  | [] => []
  | entry :: later =>
    if omitted 0 then without (fun place => omitted (place + 1)) later
    else entry :: without (fun place => omitted (place + 1)) later

namespace Table

/-- Statements that store no row can be left out of a script. -/
theorem exchanges_without {table : Table} {script : List Statement} {omitted : Nat → Bool}
    (idle : ∀ place exchange, omitted place = true →
      (table.exchanges script)[place]? = some exchange → ¬exchange.Stores) :
    table.exchanges (without omitted script) = without omitted (table.exchanges script) ∧
      table.after (without omitted script) = table.after script := by
  induction script generalizing table omitted with
  | nil => exact ⟨rfl, rfl⟩
  | cons statement later ih =>
    have rest := @ih (statement.execute table).state (fun place => omitted (place + 1))
      (fun place exchange left found => idle (place + 1) exchange left found)
    rw [exchanges, without, without]
    by_cases first : omitted 0 = true
    · -- The statement is left out, so the rest of the script starts from the same table.
      have unchanged := Statement.unchanged_of_not_stores (idle 0 _ first rfl)
      rw [unchanged] at rest
      rw [if_pos first, if_pos first, unchanged]
      refine ⟨rest.1, rest.2.trans ?_⟩
      rw [after, after, List.foldl_cons, unchanged]
    · rw [if_neg first, if_neg first, exchanges, rest.1]
      exact ⟨rfl, rest.2⟩

/-- On any table, a statement that is not an insertion answered as executed leaves the table as it
was. So any such statements can be left out of a script, and all other answers and the table at
the end stay the same. The command to leave stops the session and no other statement does. -/
theorem exchanges_of_idle_omitted (table : Table) :
    (∀ statement : Statement, Exchange.Stores ⟨statement, (statement.execute table).answer⟩ ∨
      (statement.execute table).state = table) ∧
    (∀ script omitted, (∀ place exchange, omitted place = true →
        (table.exchanges script)[place]? = some exchange → ¬exchange.Stores) →
      table.exchanges (without omitted script) = without omitted (table.exchanges script) ∧
        table.after (without omitted script) = table.after script) ∧
    ∀ statement : Statement,
      (statement.execute table).answer.control = .stop ↔ statement = .exit := by
  refine ⟨fun statement => ?_, fun script omitted => exchanges_without, fun statement => ?_⟩
  · exact or_iff_not_imp_left.2 Statement.unchanged_of_not_stores
  · exact Statement.control_eq_stop_iff

/-- A refused insertion and the command to leave are left out in front of a row and its showing. -/
theorem exchanges_of_idle_omitted_refused :
    let script : List Statement :=
      [.insert ⟨1, "a\x00", "b"⟩, .insert ⟨2, "c", "d"⟩, .exit, .select]
    let omitted : Nat → Bool := fun place => place == 0 || place == 2
    (∀ place exchange, omitted place = true →
        ((empty 1).exchanges script)[place]? = some exchange → ¬exchange.Stores) ∧
      (empty 1).exchanges (without omitted script) =
        without omitted ((empty 1).exchanges script) ∧
      (empty 1).after (without omitted script) = (empty 1).after script := by
  intro script omitted
  have idle : ∀ place exchange, omitted place = true →
      ((empty 1).exchanges script)[place]? = some exchange → ¬exchange.Stores := by
    intro place exchange left found
    obtain rfl | rfl : place = 0 ∨ place = 2 := by simpa [omitted] using left
    · obtain rfl := Option.some.inj found
      rintro ⟨-, answered⟩
      exact absurd answered (by decide)
    · obtain rfl := Option.some.inj found
      rintro ⟨⟨row, inserted⟩, -⟩
      cases inserted
  exact ⟨idle, (exchanges_of_idle_omitted (empty 1)).2.1 script omitted idle⟩

end Table

end RowStore
