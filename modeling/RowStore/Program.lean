import RowStore.CommandLine
import RowStore.Event.Filter
import RowStore.Event.Text
import RowStore.Session
import RowStore.Text.Line

/-!
# The program

The command line and the environment decide whether a session runs, with which prompt,
page limit and log filter. Answers go to the output and log lines to the error stream,
which never influence each other.
-/

namespace RowStore.Program

/-- The answer to a request for the version. -/
def versionText : String := "dbtoy 0.1.0\n"

/-- What the program is. -/
def summary : String := "A single-table row store driven line by line over stdin"

/-- The answer to a request for help. -/
def helpText : String :=
  summary ++ "\n\nUsage: dbtoy [OPTIONS]\n\nOptions:\n" ++
  "      --max-pages <N>       Maximum number of pages the table may allocate [default: 100]\n" ++
  "      --prompt <TEXT>       Prompt written before each line is read [default: \"db > \"]\n" ++
  "      --no-prompt           Do not write a prompt\n" ++
  "      --log-level <FILTER>  Log filter directives, e.g. `debug` or `dbtoy::pager=trace` " ++
  "(default: $DBTOY_LOG, then `warn`)\n" ++
  "  -h, --help                Print help\n" ++
  "  -V, --version             Print version\n"

/-- Everything that a run of the program leaves behind. -/
structure Result where
  /-- Zero after success. -/
  exitCode : Nat
  /-- Bytes written to the output. -/
  output : List UInt8
  /-- Lines written to the error stream. -/
  report : List String
  deriving DecidableEq, Repr

/-- A failure is reported by one line and leaves no output. -/
def Result.failure (exitCode : Nat) (message : String) : Result :=
  ⟨exitCode, [], [Text.firstLine message]⟩

/-- A result that only answers with a text. -/
def Result.text (text : String) : Result := ⟨0, Text.Utf8.encode text.toList, []⟩

/-- The filter in force: one that is asked for must be readable, while one from the
environment is passed over if it is not. -/
def logFilter (reader : FilterReader) (requested environment : Option String) :
    Except String (Event → Bool) :=
  match requested with
  | some text =>
    match reader.read? text with
    | some admits => .ok admits
    | none => .error ("Error: invalid log filter `" ++ text ++ "`")
  | none => .ok ((environment.bind reader.read?).getD reader.standard)

/-- Either the result of a run that needs no session, or the session to run and what the
filter admits of its log. -/
def prepare (commands : CommandLine.ArgumentReader) (filters : FilterReader)
    (arguments : List CommandLine.Argument) (environment : Option String) :
    Except Result (Session × (Event → Bool)) :=
  match commands.parse arguments with
  | .error error => .error (.failure 2 (error.message .stream))
  | .ok .help => .error (.text helpText)
  | .ok .version => .error (.text versionText)
  | .ok (.run config) =>
    match logFilter filters config.logLevel environment with
    | .error message => .error (.failure 1 message)
    | .ok admits =>
      let console : Console := { prompt := config.effectivePrompt }
      .ok (.start console (.empty config.maxPages) none, admits)

/-- The log lines of a session for what is admitted, from a number of events on. -/
def logLines (admits : Event → Bool) (session : Session) (seen : Nat) : List String :=
  ((session.log.toList.drop seen).filter admits).map Event.render

/-- The result of a session that is over. -/
def conclude (admits : Event → Bool) (session : Session) : Result where
  exitCode := match session.result with
    | .ok () => 0
    | .error _ => 1
  output := session.sink.written.toList
  report := logLines admits session 0

/-- Run the program with a way to read command lines and one to read log filters, on an input that
does not fail. -/
def runWith (commands : CommandLine.ArgumentReader) (filters : FilterReader)
    (arguments : List CommandLine.Argument) (environment : Option String) (input : List UInt8) :
    Result :=
  match prepare commands filters arguments environment with
  | .error result => result
  | .ok (session, admits) =>
    conclude admits ((input.foldl Session.feed session).finish .endOfInput).close

/-- Run the program on an input that does not fail. -/
def run (arguments : List CommandLine.Argument) (environment : Option String)
    (input : List UInt8) : Result :=
  runWith CommandLine.reader LogFilter.reader arguments environment input

end RowStore.Program
