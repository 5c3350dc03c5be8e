import RowStore.Proofs.CommandLine.LogLevel
import RowStore.Proofs.Event.Filter
import RowStore.Proofs.Program.Runs

/-!
# Runs with different log filters

The log filter selects what of a session is reported, and has no part in the session. Whatever is
asked for, what is left in the report are events of the full one; only a filter that is asked for
and cannot be read ends the program before the session.
-/

namespace RowStore.Program

open CommandLine

/-- Command lines that differ in the log filter alone ask for the same session. -/
theorem sessionOf_eq {commands : ArgumentReader} (known : commands.Documented)
    {arguments others : List Argument} {config other : Config}
    (accepted : commands.parse arguments = .ok (.run config))
    (also : commands.parse others = .ok (.run other))
    (same : withoutLogLevel arguments = withoutLogLevel others) (input : List UInt8) :
    sessionOf other input = sessionOf config input := by
  have alike := eq_of_withoutLogLevel known accepted also same
  obtain ⟨pages, prompt, noPrompt, -⟩ := Config.mk.inj alike
  unfold sessionOf Config.effectivePrompt
  rw [pages, prompt, noPrompt]

/-- Two accepted command lines that are the same without their log filter lead to the same output
on an input, with any two environments.

If each filter that is asked for can be read, both runs succeed and their output is that of the
session with the effective prompt on a new table with the page limit. If the filter in force in one
run, asked for or else in the environment, is a level or consists of modules with a level each, and
the other run is in full detail, then it reports those events of the other, in their order, whose
level and target the filter admits. A filter that is asked for and cannot be read leads to the exit
code 1 without any output, and one in the environment that cannot be read leads to the same as the
filter for warnings. -/
theorem logging_separate {commands : ArgumentReader} (known : commands.Documented)
    {filters : FilterReader} (documented : filters.Documented)
    {arguments others : List Argument} {config other : Config}
    (accepted : commands.parse arguments = .ok (.run config))
    (also : commands.parse others = .ok (.run other))
    (same : withoutLogLevel arguments = withoutLogLevel others)
    (environment otherEnvironment : Option String) (input : List UInt8) :
    let result := runWith commands filters arguments environment input
    let another := runWith commands filters others otherEnvironment input
    let events := (sessionOf config input).log.toList
    ((∀ text, config.logLevel = some text ∨ other.logLevel = some text →
        (filters.read? text).isSome) →
      result.exitCode = 0 ∧ another.exitCode = 0 ∧
      result.output = (sessionOf config input).sink.written.toList ∧
      another.output = result.output) ∧
    (∀ text filter, LogFilter.Written text filter → config.logLevel.or environment = some text →
      other.logLevel.or otherEnvironment = some "trace" →
      another.report = events.map Event.render ∧
      ∃ admitted : Event → Bool, result.report = (events.filter admitted).map Event.render ∧
        ∀ event, admitted event = true ↔ filter.Admits event.level event.target) ∧
    (∀ text, config.logLevel = some text → filters.read? text = none →
      result.exitCode = 1 ∧ result.output = []) ∧
    (∀ text, config.logLevel = none → environment = some text → filters.read? text = none →
      result = runWith commands filters arguments (some "warn") input) := by
  intro result another events
  have session := sessionOf_eq known accepted also same input
  refine ⟨fun readable => ?_, fun text filter written asked full => ?_,
    fun text asked unreadable => ?_, fun text unasked given unreadable => ?_⟩
  · obtain ⟨admits, inForce⟩ := exists_logFilter
      (fun text asked => readable text (.inl asked)) environment
    obtain ⟨otherAdmits, otherInForce⟩ := exists_logFilter
      (fun text asked => readable text (.inr asked)) otherEnvironment
    have ran : result = _ := runWith_of_accepted accepted inForce input
    have otherRan : another = _ := runWith_of_accepted also otherInForce input
    rw [ran, otherRan, session]
    exact ⟨rfl, rfl, rfl, rfl⟩
  · obtain ⟨admits, read, admitted⟩ := documented.written written
    obtain ⟨all, readTrace, whole⟩ := documented.written LogFilter.written_trace
    have ran : result = _ := runWith_of_accepted accepted (logFilter_of_read? asked read) input
    have otherRan : another = _ :=
      runWith_of_accepted also (logFilter_of_read? full readTrace) input
    have everything : events.filter all = events := by
      apply List.filter_eq_self.2
      intro event _
      exact (whole event).2 (LogFilter.whole_admits ..)
    rw [session, everything] at otherRan
    exact ⟨congrArg Result.report otherRan, admits, congrArg Result.report ran, admitted⟩
  · have ended : result = _ := runWith_of_unreadable accepted asked unreadable input
    rw [ended]
    exact ⟨rfl, rfl⟩
  · apply runWith_of_bind_read? accepted unasked
    rw [given, Option.bind_some, Option.bind_some, unreadable, documented.standard]
    rfl

/-- A run with a filter of two modules beside one in full detail, whose arguments are in another
order, and a run with a filter that cannot be read. -/
theorem logging_separate_modules :
    let bytes := List.map fun text : String => Text.Utf8.encode text.toList
    let arguments := bytes ["--log-level", "dbtoy::pager=trace,dbtoy=info", "--prompt", "> "]
    let others := bytes ["--prompt", "> ", "--log-level=trace"]
    let unreadable := bytes ["--prompt", "> ", "--log-level=dbtoy=loud"]
    let input := Text.Utf8.encode "insert 1 a b\nselect".toList
    let result := run arguments none input
    let another := run others (some "loud") input
    let refused := run unreadable none input
    reader.Documented ∧ LogFilter.reader.Documented ∧
    reader.parse arguments = .ok (.run ⟨100, "> ", false, some "dbtoy::pager=trace,dbtoy=info"⟩) ∧
    reader.parse others = .ok (.run ⟨100, "> ", false, some "trace"⟩) ∧
    reader.parse unreadable = .ok (.run ⟨100, "> ", false, some "dbtoy=loud"⟩) ∧
    withoutLogLevel arguments = withoutLogLevel others ∧
    withoutLogLevel unreadable = withoutLogLevel others ∧
    (result.exitCode = 0 ∧ another.exitCode = 0 ∧ another.output = result.output) ∧
    (∃ (events : List Event) (admitted : Event → Bool),
      another.report = events.map Event.render ∧ another.report.length = 7 ∧
      result.report = (events.filter admitted).map Event.render ∧ result.report.length = 5) ∧
    refused.exitCode = 1 ∧ refused.output = [] := by
  intro bytes arguments others unreadable input result another refused
  have lengths : another.report.length = 7 ∧ result.report.length = 5 := by
    decide +kernel +revert
  have documented := LogFilter.documented_reader
  have accepted : reader.parse arguments =
      .ok (.run ⟨100, "> ", false, some "dbtoy::pager=trace,dbtoy=info"⟩) := by decide
  have also : reader.parse others = .ok (.run ⟨100, "> ", false, some "trace"⟩) := by decide
  have bad : reader.parse unreadable = .ok (.run ⟨100, "> ", false, some "dbtoy=loud"⟩) := by
    decide
  have same : withoutLogLevel arguments = withoutLogLevel others := by decide
  have alike : withoutLogLevel unreadable = withoutLogLevel others := by decide
  obtain ⟨separate, selected, -, -⟩ :=
    logging_separate documented_reader documented accepted also same none (some "loud") input
  obtain ⟨-, -, ended, -⟩ :=
    logging_separate documented_reader documented bad also alike none none input
  have readable : ∀ text, some "dbtoy::pager=trace,dbtoy=info" = some text ∨
      some "trace" = some text → (LogFilter.reader.read? text).isSome := by
    rintro text (given | given) <;> cases given <;> decide
  have written : LogFilter.Written (",".intercalate ["dbtoy::pager=trace", "dbtoy=info"])
      ⟨[⟨"dbtoy::pager".toList, some .trace⟩, ⟨"dbtoy".toList, some .info⟩]⟩ := by
    refine .modules (by decide) (.cons ?_ (.cons ?_ .nil))
    · exact @Directive.Written.directive "dbtoy::pager" "trace" _ (by decide) (by decide)
    · exact @Directive.Written.directive "dbtoy" "info" _ (by decide) (by decide)
  obtain ⟨exitCode, otherCode, -, output⟩ := separate readable
  obtain ⟨full, admitted, part, -⟩ := selected _ _ written rfl rfl
  exact ⟨documented_reader, documented, accepted, also, bad, same, alike,
    ⟨exitCode, otherCode, output⟩, ⟨_, admitted, full, lengths.1, part, lengths.2⟩, ended _ rfl (by decide)⟩

end RowStore.Program
