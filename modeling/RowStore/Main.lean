import RowStore.Program

/-!
# Command line entry

The outer layer: standard streams, arguments and environment. Input is taken byte by
byte, and what each byte adds to the output and the log is written at once.
-/

namespace RowStore.Main

/-- Write what a session has added since `written` bytes and `logged` events. -/
def flush (admits : Event → Bool) (session : Session) (written logged : Nat) : IO Unit := do
  let report ← IO.getStderr
  for line in Program.logLines admits session logged do
    report.putStrLn line
  let fresh := session.sink.written.extract written session.sink.written.size
  unless fresh.isEmpty do
    let output ← IO.getStdout
    output.write (ByteArray.mk fresh)
    output.flush

/-- Close a session that takes no more input. -/
def leave (admits : Event → Bool) (session : Session) (written logged : Nat) : IO UInt32 := do
  let session := session.close
  flush admits session written logged
  match session.result with
  | .ok () => return 0
  | .error fault =>
    IO.eprintln ("Error: session aborted: " ++ fault.message)
    return 1

/-- Run a session to its end. -/
partial def drive (admits : Event → Bool) (session : Session) (written logged : Nat) :
    IO UInt32 := do
  flush admits session written logged
  let written := session.sink.written.size
  let logged := session.log.size
  if session.phase = .reading then
    let input ← IO.getStdin
    let next ← (some <$> input.read 1).catchExceptions fun _ => pure none
    match next with
    | none => leave admits (session.finish .failure) written logged
    | some bytes =>
      if bytes.isEmpty then leave admits (session.finish .endOfInput) written logged
      else drive admits (bytes.data.foldl Session.feed session) written logged
  else leave admits session written logged

end RowStore.Main

/-- Run the program. -/
def main (arguments : List String) : IO UInt32 := do
  let arguments := arguments.map fun argument => RowStore.Text.Utf8.encode argument.toList
  let environment ← IO.getEnv RowStore.CommandLine.logVariable
  let commands := RowStore.CommandLine.reader
  match RowStore.Program.prepare commands RowStore.LogFilter.reader arguments environment with
  | .ok (session, admits) => RowStore.Main.drive admits session 0 0
  | .error result =>
    (← IO.getStdout).write (ByteArray.mk result.output.toArray)
    for line in result.report do
      IO.eprintln line
    return result.exitCode.toUInt32
