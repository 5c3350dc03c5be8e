import RowStore.Proofs.CommandLine.Grammar
import RowStore.Proofs.Event.Filter
import RowStore.Proofs.Program.Runs
import RowStore.Proofs.Session.Chronicle

/-!
# The report of a run in full detail

With the filter for all levels every event of the session is reported, in order. So the report is
the chronicle of the session, as lines.
-/

namespace RowStore.Program

open CommandLine Session

/-- With the filter `trace`, asked for or else in the environment, a run reports the log of its
session, each event as one line. The log is the chronicle of what the run did with its input: it
gives the limit of fourteen rows a page first, the statement of each line that was carried out with
the number of rows written before it, each page directly before its first row, the rows in order of
page and slot, a rejection for each line that was answered so, the end of the input unless a line
was the command to leave, and at last the numbers of rows and pages; and none is a warning or an
error. -/
theorem trace_chronicle {commands : ArgumentReader} (known : commands.Documented)
    {filters : FilterReader} (documented : filters.Documented) {arguments : List Argument}
    {config : Config} {environment : Option String}
    (accepted : commands.parse arguments = .ok (.run config))
    (asked : config.logLevel.or environment = some "trace") (input : List UInt8) :
    let result := runWith commands filters arguments environment input
    let executed := turns
      (start { prompt := config.effectivePrompt } (.empty config.maxPages) none) (lines input)
    let events := (sessionOf config input).log.toList
    result.exitCode = 0 ∧
    result.output = Text.Utf8.encode config.effectivePrompt.toList ++
      executed.flatMap Turn.output ∧
    result.report = events.map Event.render ∧
    Chronicle (14 * config.maxPages) (lines input) executed events := by
  intro result executed events
  obtain ⟨admits, read, whole⟩ := documented.written LogFilter.written_trace
  have ran : result = _ := runWith_of_accepted accepted (logFilter_of_read? asked read) input
  have taken : (sessionOf config input).result ≠ .error .writeRefused := by
    rw [result_sessionOf]
    decide
  have capacity : (Table.empty config.maxPages).capacity = 14 * config.maxPages := by
    have most : config.maxPages ≤ 100000 := (known.bounds accepted).2
    have pages : (Table.empty config.maxPages).pages.maxPages = config.maxPages := rfl
    have size : UInt64.size = 18446744073709551616 := rfl
    rw [Table.capacity_eq, pages, size]
    omega
  have all : events.filter admits = events := by
    apply List.filter_eq_self.2
    intro event _
    exact (whole event).2 (LogFilter.whole_admits ..)
  have told := chronicle_run { prompt := config.effectivePrompt } config.maxPages input
  rw [capacity] at told
  rw [all] at ran
  refine ⟨congrArg Result.exitCode ran, ?_, congrArg Result.report ran, told⟩
  exact (congrArg Result.output ran).trans (written_run taken)

/-- A run on a table of one page in full detail, with a line that is no statement. -/
theorem trace_chronicle_unrecognized :
    let arguments := ["--log-level=trace", "--max-pages", "1"].map (Text.Utf8.encode ·.toList)
    let config : Config := ⟨1, "db > ", false, some "trace"⟩
    let input := Text.Utf8.encode "insert 1 a b\nwhat\nselect".toList
    let result := run arguments none input
    let events := (sessionOf config input).log.toList
    reader.Documented ∧ LogFilter.reader.Documented ∧
      reader.parse arguments = .ok (.run config) ∧ config.logLevel.or none = some "trace" ∧
      result.exitCode = 0 ∧ result.report = events.map Event.render ∧
      Chronicle 14 (lines input) (turns
        (start { prompt := config.effectivePrompt } (.empty 1) none) (lines input)) events := by
  intro arguments config input result events
  have accepted : reader.parse arguments = .ok (.run config) := by decide
  have asked : config.logLevel.or none = some "trace" := rfl
  obtain ⟨exitCode, -, reported, told⟩ :=
    trace_chronicle documented_reader LogFilter.documented_reader accepted asked input
  exact ⟨documented_reader, LogFilter.documented_reader, accepted, asked, exitCode, reported, told⟩

end RowStore.Program
