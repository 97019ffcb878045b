import SnapshotQuery.CommandLine.Program

/-!
# The executable

Reads the arguments and the configuration file, runs the command and prints
what it printed.
-/

namespace SnapshotQuery

namespace Program

/-- What is printed when the arguments do not name something to run. -/
def usage : String :=
  "usage: snapshot-query simulate [--config PATH] [--rows N] [--writes N] [--rows-per-write N]\n" ++
  "         [--random-writes] [--policy no-retry|max-retry|indefinite] [--max-retries N]\n" ++
  "         [--rederive]\n" ++
  "       snapshot-query check-config --config PATH"

def version : String := "snapshot-query 0.1.0"

def readFile (path : String) : IO FileContent := do
  try
    return .ofBytes (← IO.FS.readBinFile path)
  catch
    | .noFileOrDirectory .. => return .absent
    | error => return .unreadable error.toString

def readConfig (invocation : Invocation) : IO FileContent :=
  match invocation.configPath? with
  | some path => readFile path
  | none => return .absent

def printLine (line : PrintedLine) : IO Unit :=
  match line.stream with
  | .output => IO.println line.text
  | .error => IO.eprintln line.text

def runInvocation (invocation : Invocation) : IO UInt32 := do
  let content ← readConfig invocation
  let seed ← IO.rand 0 (1 <<< 30)
  let draw attempt most := (randNat (mkStdGen (seed + attempt)) 0 most).1
  let (journal, result) := run .initial content draw invocation
  journal.lines.forM printLine
  match result with
  | .ok () => return 0
  | .error (.reported error) =>
      IO.eprintln error.line
      return 1
  | .error (.panicked message) =>
      IO.eprintln message
      return 101

def refuse (error : UsageError) : IO UInt32 := do
  match error with
  | .displayHelp => IO.println usage
  | .displayVersion => IO.println version
  | _ => IO.eprintln usage
  return error.exitCode.toUInt32

end Program

end SnapshotQuery

def main (arguments : List String) : IO UInt32 :=
  match SnapshotQuery.Invocation.ofArguments arguments with
  | .ok invocation => SnapshotQuery.Program.runInvocation invocation
  | .error error => SnapshotQuery.Program.refuse error
