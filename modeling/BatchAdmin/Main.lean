/-
The program: reads settings, then lines of requests.

Nothing is decided here. The command line, the settings file and the
environment are handed to `Command`, and each line of the input to
`Web.answerLine`.
-/
import BatchAdmin.Command
import BatchAdmin.Web.Exchange
import Std.Time.DateTime.Timestamp

namespace BatchAdmin.Program

/-- The text of a file, if it can be read. -/
def fileText? (name : String) : IO (Option String) := do
  try
    return some (← IO.FS.readFile name)
  catch _ =>
    return none

/-- The variables of the environment that set something. -/
def environment : IO (List (String × String)) :=
  Command.variableNames.filterMapM fun name => do
    return (← IO.getEnv name).map fun value => (name, value)

/-- The present. -/
def present : IO Instant := do
  let now ← Std.Time.Timestamp.now
  return .ofNanos now.toNanosecondsSinceUnixEpoch.toInt

/-- Answers lines until there are no more. -/
partial def serve (g : Gateway) (input output : IO.FS.Stream) :
    IO Unit := do
  let line ← input.getLine
  unless line.isEmpty do
    let (answer, g) := Web.answerLine g (← present) line
    output.putStrLn answer
    output.flush
    serve g input output

/-- Carries out a command; tells the exit code. -/
def run (line : CommandLine) : IO UInt32 := do
  let file ← fileText? (line.named.getD Command.usualFile)
  match Command.settings line file (← environment) with
  | .error fault =>
      (← IO.getStderr).putStrLn fault.message
      return 1
  | .ok settings =>
      let g := Gateway.fresh settings (← present)
      let output ← IO.getStdout
      match line.command with
      | .serve => serve g (← IO.getStdin) output
      | .status =>
          let request := Json.object [("uri", .text
            (Web.linkRoute g "/health"))]
          output.putStrLn (Web.answerLine g g.now request.render).1
      return 0

end BatchAdmin.Program

/-- The program: a wrong command line is told how it should be. -/
def main (words : List String) : IO UInt32 := do
  match BatchAdmin.Command.read? words with
  | some line => BatchAdmin.Program.run line
  | none =>
      (← IO.getStderr).putStrLn BatchAdmin.Command.usage
      return 2
