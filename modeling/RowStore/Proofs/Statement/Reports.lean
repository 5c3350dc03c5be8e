import RowStore.Proofs.Statement.Script

/-!
# What statements report

A statement has something to report only where it meets the table: an insertion that is carried
out reports the place of its row, and before it the page if the row is the first there; one that
finds the table full reports that. Every other statement reports nothing, and in particular no
scan of rows that are there is ever cut short.
-/

namespace RowStore

/-- What is reported when the row of a number is stored: its page if it is the first row there, and
its place. -/
def StorageEvent.storing (row : Nat) : List StorageEvent :=
  (if row % 14 = 0 then [.allocating (row / 14)] else []) ++ [.wrote (row / 14) (row % 14)]

/-- Storing a record reports the page only where the page is the next one to be added. -/
theorem Pages.events_write {pages : Pages} {page slot : Nat} (inside : slot < Layout.rowsPerPage)
    (within : page < pages.maxPages) (next : page ≤ pages.count) (block : Block) :
    (pages.write page slot block).events =
      (if page = pages.count then [.allocating page] else []) ++ [.wrote page slot] := by
  have granted := answer_allocate pages page
  have reported : (pages.allocate page).events =
      (if page = pages.count then [.allocating page] else []) := by
    by_cases added : page = pages.count
    · have one : page + 1 - pages.count = 1 := by omega
      rw [if_pos added, allocate, if_neg (Nat.not_le.2 within), one, added]
      rfl
    · have none : page + 1 - pages.count = 0 := by omega
      rw [if_neg added, allocate, if_neg (Nat.not_le.2 within), none]
      rfl
  rw [if_neg (Nat.not_le.2 within)] at granted
  simp only [write, if_neg (Nat.not_le.2 inside), granted, reported]

/-- The report of a row error is not that the table is full. -/
theorem RowError.message_ne_full (error : RowError) : error.message ≠ TableError.full.message := by
  intro same
  have first := congrArg (fun text => text.toList.head?) same
  cases error with
  | tooLong field length limit =>
    cases field <;> simp [message, Field.name, TableError.message] at first
  | containsNul field =>
    cases field <;> simp [message, Field.name, TableError.message] at first

namespace Table

variable {table : Table} {rows : List Row}

/-- A fitting row that is stored reports its place, and its page where it is the first there. -/
theorem Holds.events_insert (holds : table.Holds rows) (room : table.size < table.capacity)
    {row : Row} (fits : row.check = .ok ()) :
    (table.insert row).events = StorageEvent.storing table.size := by
  have counted := holds.count_eq
  rw [← holds.size_eq] at counted
  have inside : table.size % 14 < Layout.rowsPerPage := by
    rw [Layout.rowsPerPage_eq]
    omega
  have next : table.size / 14 ≤ table.pages.count := by omega
  have first : table.size / 14 = table.pages.count ↔ table.size % 14 = 0 := by omega
  have record : row.encode = .ok (Block.layOut row) := by rw [Row.encode_eq_map, fits]; rfl
  have written := Pages.events_write inside (page_lt_of_lt_capacity room) next (Block.layOut row)
  have reported : (table.insert row).events =
      (table.pages.write (table.size / 14) (table.size % 14) (Block.layOut row)).events := by
    simp only [insert, if_neg (Nat.not_le.2 room), record, Pages.locate_eq]
    cases (table.pages.write (table.size / 14) (table.size % 14) (Block.layOut row)).answer with
    | ok => rfl
    | error error => rfl
  simp only [reported, written, first, StorageEvent.storing]

/-- Only insertions are answered that the table is full. -/
theorem lines_ne_full {statement : Statement} (other : ∀ row, statement ≠ .insert row) :
    (statement.execute table).answer.lines ≠ ["Error: Table full."] := by
  intro same
  cases statement with
  | insert row => exact other row rfl
  | select =>
    have last := congrArg List.getLast? same
    simp [Statement.execute, Outcome.executed] at last
  | exit => simp [Statement.execute] at same
  | unrecognized text =>
    have first := congrArg (fun text => text.toList.head?) (List.singleton_inj.1 same)
    simp at first
  | malformed reason =>
    have first := congrArg (fun text => text.toList.head?) (List.singleton_inj.1 same)
    simp at first

/-- What carrying out a statement can come to. -/
inductive Consequence (table : Table) (reply : Reply Table Outcome StorageEvent) : Prop where
  /-- A row was stored, and its place is reported. -/
  | stored (size_eq : reply.state.size = table.size + 1)
      (other : reply.answer.lines ≠ ["Error: Table full."])
      (events_eq : reply.events = StorageEvent.storing table.size)
  /-- The table is full: that is answered and reported. -/
  | rejected (state_eq : reply.state = table)
      (full : reply.answer.lines = ["Error: Table full."])
      (events_eq : reply.events = [.insertRejected table.size])
  /-- The table is left as it was, and nothing is reported. -/
  | idle (state_eq : reply.state = table)
      (other : reply.answer.lines ≠ ["Error: Table full."]) (events_eq : reply.events = [])

/-- An insertion stores its row, finds the table full or is refused for its texts. -/
theorem Holds.consequence_insert (holds : table.Holds rows) (row : Row) :
    Consequence table ((Statement.insert row).execute table) := by
  have changed := Statement.state_execute_insert row table
  have reported : ((Statement.insert row).execute table).events = (table.insert row).events := by
    simp only [Statement.execute]
    cases (table.insert row).answer with
    | ok => rfl
    | error error => rfl
  obtain ⟨full, answered, kept⟩ | ⟨error, room, unfit, answered, kept⟩ |
      ⟨room, fits, answered, extended, -⟩ := holds.insert_cases row
  · have reached : table.capacity ≤ table.size := by
      rw [holds.size_eq]
      omega
    apply Consequence.rejected
    · exact changed.trans kept
    · rw [Statement.answer_execute_insert_refused answered]
      rfl
    · rw [reported, insert, if_pos reached]
  · have vacant : table.size < table.capacity := by rwa [holds.size_eq]
    have refused : row.encode = .error error := by rw [Row.encode_eq_map, unfit]; rfl
    apply Consequence.idle
    · exact changed.trans kept
    · intro same
      have full : "Error: Table full." = "Error: " ++ TableError.full.message ++ "." := by decide
      rw [Statement.answer_execute_insert_refused answered, full, Outcome.line,
        List.singleton_inj, ← String.toList_inj] at same
      have reports : (TableError.field error).message = TableError.full.message := by
        simpa [String.toList_append, String.toList_inj] using same
      exact error.message_ne_full reports
    · rw [reported, insert, if_neg (Nat.not_le.2 vacant), refused]
  · have vacant : table.size < table.capacity := by rwa [holds.size_eq]
    apply Consequence.stored
    · rw [changed, extended.size_eq, holds.size_eq, List.length_append, List.length_singleton]
    · rw [Statement.answer_execute_insert answered]
      decide
    · exact reported.trans (holds.events_insert vacant fits)

/-- A statement stores a row, finds the table full or has nothing to report. -/
theorem Holds.consequence (holds : table.Holds rows) (statement : Statement) :
    Consequence table (statement.execute table) := by
  cases statement with
  | insert row => exact holds.consequence_insert row
  | select =>
    have drained : table.scan.drain.events = [] := by
      rw [Table.scan, holds.size_eq, Scan.drain_of_holds holds (Nat.zero_le _)]
    exact .idle rfl (lines_ne_full (by simp)) drained
  | exit => exact .idle rfl (lines_ne_full (by simp)) rfl
  | unrecognized text => exact .idle rfl (lines_ne_full (by simp)) rfl
  | malformed reason => exact .idle rfl (lines_ne_full (by simp)) rfl

end Table

end RowStore
