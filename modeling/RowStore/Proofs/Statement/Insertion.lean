import RowStore.Proofs.Statement.Dump

/-!
# The two ways to insert a row

A row can be written as a line or be handed over as it is. As a line its texts are checked when
the line is read, before the table is asked; handed over they are checked only where the table
has room. Both ways leave the same table and, while there is room, find the same fault. On a full
table the fault of the row comes first on one way and the lack of room on the other.
-/

namespace RowStore

/-- Making a row is checking it. -/
theorem Row.make_eq_map (row : Row) :
    make row.id row.username row.email = row.check.map fun _ => row := by
  rw [make]
  cases row.check with
  | ok => rfl
  | error error => rfl

/-- A row is made exactly when it passes the check. -/
theorem Row.make_eq_ok_iff {row : Row} :
    make row.id row.username row.email = .ok row ↔ row.check = .ok () := by
  rw [make_eq_map]
  cases row.check with
  | ok => simp [Except.map]
  | error error => simp [Except.map]

/-- Making a row refuses what the check refuses. -/
theorem Row.make_eq_error_iff {row : Row} {error : RowError} :
    make row.id row.username row.email = .error error ↔ row.check = .error error := by
  rw [make_eq_map]
  cases row.check with
  | ok => simp [Except.map]
  | error first => simp [Except.map]

/-- A line that writes a row of two words which do not both fit is malformed for the error of the
check. -/
theorem Row.Dumped.parse_unfit {row : Row} {line : String} (dumped : row.Dumped line)
    (username : Text.Word row.username.toList) (email : Text.Word row.email.toList)
    {error : RowError} (unfit : row.check = .error error) :
    Statement.parse line = .malformed (.field error) :=
  (Statement.Derives.field (dumped.worded username email)
    (Text.numeral_decimal row.id.toInt) unfit).parse_eq

/-- A full table refuses every row that is handed over, fitting or not. -/
theorem Table.answer_execute_full {table : Table} (full : table.capacity ≤ table.size)
    (row : Row) :
    ((Statement.insert row).execute table).answer = .line "Error: Table full." := by
  rw [Statement.answer_execute_insert_refused (table.insert_full full row).1]
  rfl

/-- No syntax error is answered like a full table. -/
theorem Outcome.syntaxError_ne_full (report : String) :
    Outcome.line ("Syntax error: " ++ report ++ ".") ≠ .line "Error: Table full." := by
  intro same
  have lines : ["Syntax error: " ++ report ++ "."] = ["Error: Table full."] :=
    congrArg Outcome.lines same
  have heads := congrArg (fun line => line.toList.head?) (List.singleton_inj.1 lines)
  simp at heads

namespace Table

variable {row : Row} {line : String}

/-- A row that does not fit leaves any table as it was, whether there is room or not. -/
theorem insert_unfit_unchanged (table : Table) {error : RowError}
    (unfit : row.check = .error error) : (table.insert row).state = table := by
  by_cases full : table.capacity ≤ table.size
  · exact (insert_full full row).2
  · exact (insert_unfit (Nat.lt_of_not_le full) unfit).2

/-- A row of two words leaves the same table whether a line writes it or it is handed over. -/
theorem execute_dumped_state (table : Table) (dumped : row.Dumped line)
    (username : Text.Word row.username.toList) (email : Text.Word row.email.toList) :
    ((Statement.parse line).execute table).state =
      ((Statement.insert row).execute table).state := by
  cases checked : row.check with
  | ok => rw [dumped.parse_fit username email checked]
  | error error =>
    have unchanged := table.insert_unfit_unchanged checked
    rw [dumped.parse_unfit username email checked, Statement.state_execute_insert, unchanged]
    rfl

/-- A row of two words, written by a line such as the plain one or handed over unchecked, leaves
the same table. While there is room both ways execute it if it can be made, and otherwise refuse
it with one report, as an error of the line and as an error of the insertion. A full table refuses
whatever is handed over, but a line only where its row can be made; any other line is still refused
with the report of the row. -/
theorem insertions_agree (table : Table) (row : Row)
    (username : Text.Word row.username.toList) (email : Text.Word row.email.toList) :
    row.Dumped row.insertion ∧
    ∀ line, row.Dumped line →
      let made := Row.make row.id row.username row.email
      let parsed := (Statement.parse line).execute table
      let direct := (Statement.insert row).execute table
      parsed.state = direct.state ∧
      (table.size < table.capacity →
        (made = .ok row ∧ parsed.answer = .line "Executed." ∧
          direct.answer = .line "Executed.") ∨
        ∃ error : RowError, made = .error error ∧
          parsed.answer = .line ("Syntax error: " ++ error.message ++ ".") ∧
          direct.answer = .line ("Error: " ++ error.message ++ ".")) ∧
      (table.capacity ≤ table.size →
        direct.answer = .line "Error: Table full." ∧
        (parsed.answer = .line "Error: Table full." ↔ made = .ok row) ∧
        ∀ error : RowError, made = .error error →
          parsed.answer = .line ("Syntax error: " ++ error.message ++ ".")) := by
  refine ⟨row.dumped_insertion, fun line dumped => ?_⟩
  intro made parsed direct
  have same : parsed.state = direct.state := table.execute_dumped_state dumped username email
  refine ⟨same, ?_⟩
  cases checked : row.check with
  | ok =>
    have built : made = .ok row := Row.make_eq_ok_iff.2 checked
    have read : parsed = direct :=
      congrArg (Statement.execute · table) (dumped.parse_fit username email checked)
    rw [built, read]
    constructor
    · intro room
      have executed : direct.answer = .line "Executed." :=
        Statement.answer_execute_insert (insert_fit room checked).1
      exact .inl ⟨rfl, executed, executed⟩
    · intro full
      have refused : direct.answer = .line "Error: Table full." := answer_execute_full full row
      exact ⟨refused, iff_of_true refused rfl, fun error other => nomatch other⟩
  | error error =>
    have unbuilt : made = .error error := Row.make_eq_error_iff.2 checked
    have malformed : parsed.answer = .line ("Syntax error: " ++ error.message ++ ".") :=
      congrArg (fun read => (Statement.execute read table).answer)
        (dumped.parse_unfit username email checked)
    rw [unbuilt, malformed]
    constructor
    · intro room
      have refused : direct.answer = .line ("Error: " ++ error.message ++ ".") :=
        Statement.answer_execute_insert_refused (insert_unfit room checked).1
      exact .inr ⟨error, rfl, rfl, refused⟩
    · intro full
      refine ⟨answer_execute_full full row, ?_, ?_⟩
      · exact iff_of_false (Outcome.syntaxError_ne_full _) (fun other => nomatch other)
      · intro other first
        cases first
        rfl

/-- A user name with the padding character is refused by both ways while there is room, and as an
error of the line alone once the table is full. -/
theorem insertions_agree_padding :
    let row : Row := ⟨-1, "a\x00", "b"⟩
    let direct := Statement.insert row
    let parsed := Statement.parse "insert -1 a\x00 b"
    (parsed.execute (.empty 1)).answer =
        .line "Syntax error: username contains a NUL byte." ∧
      (direct.execute (.empty 1)).answer = .line "Error: username contains a NUL byte." ∧
      (parsed.execute (.empty 0)).answer =
        .line "Syntax error: username contains a NUL byte." ∧
      (direct.execute (.empty 0)).answer = .line "Error: Table full." := by
  intro row direct parsed
  have username : Text.Word "a\x00".toList := ⟨by decide, by simp; decide⟩
  have email : Text.Word "b".toList := ⟨by decide, by simp; decide⟩
  have unfit : Row.make row.id row.username row.email = .error (.containsNul .username) := by
    decide
  have room : (Table.empty 1).size < (Table.empty 1).capacity := by decide
  have full : (Table.empty 0).capacity ≤ (Table.empty 0).size := by decide
  have line : row.insertion = "insert -1 a\x00 b" := by decide
  obtain ⟨written, agree⟩ := insertions_agree (.empty 1) row username email
  rw [line] at written
  have offered := (agree _ written).2.1 room
  have offeredFull := ((insertions_agree (.empty 0) row username email).2 _ written).2.2 full
  rw [unfit] at offered offeredFull
  obtain ⟨other, -⟩ | ⟨error, first, parsedAnswer, directAnswer⟩ := offered
  · cases other
  · cases first
    exact ⟨parsedAnswer, directAnswer, offeredFull.2.2 _ rfl, offeredFull.1⟩

end Table

end RowStore
