import SnapshotQuery.CommandLine.Arguments
import SnapshotQuery.Simulation

/-!
# The program

What the commands print and how they end, given what reading the configuration
file gave.
-/

namespace SnapshotQuery

inductive FileContent where
  | text (content : String)
  | unreadable (reason : String)

namespace FileContent

def absent : FileContent := unreadable "No such file or directory (os error 2)"

def ofBytes (bytes : ByteArray) : FileContent :=
  match String.fromUTF8? bytes with
  | some content => text content
  | none => unreadable "stream did not contain valid UTF-8"

end FileContent

def Config.ofFile (path : String) : FileContent → Except QueryError Config
  | .text content => Config.ofText content
  | .unreadable reason => .error (.config ("cannot read " ++ path ++ ": " ++ reason))

namespace Program

def loadConfig (journal : Journal) (path : String) (content : FileContent) :
    Journal × Except QueryError Config :=
  match Config.ofFile path content with
  | .ok config => (journal.record (Event.configLoaded path config).entry, .ok config)
  | .error error => (journal, .error error)

def respond (journal : Journal) (data : Value) : Journal :=
  journal.print (Value.ofFields [("status", .string "ok"), ("data", data)]).text

def respondError (journal : Journal) (error : CommandError) : Journal :=
  journal.print (Value.ofFields [("status", .string "error"), ("code", .string error.code),
    ("message", .string error.message)]).text

def checkConfig (journal : Journal) (path : String) (content : FileContent) :
    Journal × Except CommandFailure Unit :=
  match loadConfig journal path content with
  | (journal, .ok config) => (respond journal config.toValue, .ok ())
  | (journal, .error error) =>
      let error := CommandError.ofQuery error
      (respondError journal error, .error (.reported error))

/-- The simulation of a configuration; a random number of rows comes from `draw`, which is
given the attempt and the greatest number allowed. -/
def simulation (arguments : SimulateArguments) (config : Config) (draw : Nat → Nat → Nat) :
    Simulation where
  rows := arguments.rows
  writes := arguments.writes
  rowsAfter := fun attempt =>
    if arguments.randomWrites then min (draw attempt arguments.rowsPerWrite) arguments.rowsPerWrite
    else arguments.rowsPerWrite
  policy := arguments.retryPolicy?.getD config.defaultRetryPolicy

/-- Run the simulation and print its report. -/
def simulateWith (journal : Journal) (arguments : SimulateArguments) (config : Config)
    (draw : Nat → Nat → Nat) : Journal × Except CommandFailure Unit :=
  let journal := journal.withThreshold config.logLevel
  let config :=
    if arguments.rederive then { config with reconcileMode := .rederive } else config
  let (service, result) := (simulation arguments config draw).run config
  let journal := journal.recordAll (service.trail.reverse.map Event.entry)
  match result with
  | .ok report => (respond journal report.toValue, .ok ())
  | .error failure => (journal, .error failure)

def simulate (journal : Journal) (arguments : SimulateArguments) (content : FileContent)
    (draw : Nat → Nat → Nat) : Journal × Except CommandFailure Unit :=
  match arguments.config with
  | none => simulateWith journal arguments .default draw
  | some path =>
      match loadConfig journal path content with
      | (journal, .ok config) => simulateWith journal arguments config draw
      | (journal, .error error) => (journal, .error (.reported (.ofQuery error)))

/-- Run a command, given the content of its configuration file. -/
def run (journal : Journal) (content : FileContent) (draw : Nat → Nat → Nat) :
    Invocation → Journal × Except CommandFailure Unit
  | .simulate arguments => simulate journal arguments content draw
  | .checkConfig path => checkConfig journal path content

end Program

end SnapshotQuery
