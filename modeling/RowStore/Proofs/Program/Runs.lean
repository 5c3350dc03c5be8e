import RowStore.Program
import RowStore.Proofs.Session.Turns

/-!
# Runs of the program

Where the command line is accepted and its log filter can be read, the program runs one session on
a new table. The command line and the environment decide the prompt, the page limit and the filter
for the log, and nothing else.
-/

namespace RowStore.Program

open CommandLine

/-- The session that a command line asks for, on an input. -/
def sessionOf (config : Config) (input : List UInt8) : Session :=
  .run { prompt := config.effectivePrompt } (.empty config.maxPages) input .endOfInput none

variable {commands : ArgumentReader} {filters : FilterReader} {arguments : List Argument}
  {config : Config} {environment : Option String}

/-- A session whose input does not fail succeeds. -/
theorem result_sessionOf (config : Config) (input : List UInt8) :
    (sessionOf config input).result = .ok () :=
  Session.result_run_endOfInput ..

/-- A run is the session asked for: it succeeds, its output is that of the session, and its report
is the log as far as it is admitted. -/
theorem runWith_of_accepted (accepted : commands.parse arguments = .ok (.run config))
    {admits : Event → Bool} (inForce : logFilter filters config.logLevel environment = .ok admits)
    (input : List UInt8) :
    runWith commands filters arguments environment input =
      ⟨0, (sessionOf config input).sink.written.toList,
        ((sessionOf config input).log.toList.filter admits).map Event.render⟩ := by
  have ran : runWith commands filters arguments environment input =
      conclude admits (sessionOf config input) := by
    simp only [runWith, prepare, accepted, inForce]
    rfl
  rw [ran, conclude, result_sessionOf, logLines, List.drop_zero]

/-- What is admitted is what the filter asked for admits, or else the one in the environment, where
that can be read. -/
theorem logFilter_of_read? {requested : Option String} {text : String} {admits : Event → Bool}
    (asked : requested.or environment = some text) (read : filters.read? text = some admits) :
    logFilter filters requested environment = .ok admits := by
  cases requested with
  | some request =>
    obtain rfl : request = text := Option.some.inj asked
    simp only [logFilter, read]
  | none =>
    obtain rfl : environment = some text := asked
    simp only [logFilter, Option.bind_some, read, Option.getD_some]

/-- A filter is in force where the one asked for can be read, whatever the environment holds. -/
theorem exists_logFilter {requested : Option String}
    (readable : ∀ text, requested = some text → (filters.read? text).isSome)
    (environment : Option String) :
    ∃ admits, logFilter filters requested environment = .ok admits := by
  cases requested with
  | some text =>
    obtain ⟨admits, read⟩ := Option.isSome_iff_exists.1 (readable text rfl)
    have asked : (some text).or environment = some text := rfl
    exact ⟨admits, logFilter_of_read? asked read⟩
  | none => exact ⟨_, rfl⟩

/-- A filter that is asked for and cannot be read ends the program before it runs a session. -/
theorem runWith_of_unreadable (accepted : commands.parse arguments = .ok (.run config))
    {text : String} (asked : config.logLevel = some text) (unreadable : filters.read? text = none)
    (input : List UInt8) :
    runWith commands filters arguments environment input =
      .failure 1 ("Error: invalid log filter `" ++ text ++ "`") := by
  simp only [runWith, prepare, accepted, asked, logFilter, unreadable]

/-- Where no filter is asked for, the environment matters through what is read from it alone. -/
theorem runWith_of_bind_read? (accepted : commands.parse arguments = .ok (.run config))
    (unasked : config.logLevel = none) {environment other : Option String}
    (same : (environment.bind filters.read?).getD filters.standard =
      (other.bind filters.read?).getD filters.standard) (input : List UInt8) :
    runWith commands filters arguments environment input =
      runWith commands filters arguments other input := by
  simp only [runWith, prepare, accepted, unasked, logFilter, same]

end RowStore.Program
