import Dataspace.CommandLine.Basic
import Dataspace.Plan.Run
import Dataspace.Seeding.Session
import Dataspace.Settings.Layers

/-!
# The program

Reads the command line, the settings and the fixture, and rehearses the run
against a network that finds nothing and refuses nothing. It prints the notices
of the run and opens no connection.
-/

namespace Dataspace.Main

def describe : Usage → String
  | .missingRequired => "error: the fixture has to be named with --file"
  | .unknown => "error: unexpected argument"
  | .invalidValue => "error: an option lacks its value, or a path is empty"
  | .conflict => "error: an option that takes one value is given twice"
  | .tooManyValues => "error: a switch takes no value"
  | .help => "Usage: twin-seed --file FILE [OPTIONS]"
  | .version => "twin-seed 0.1.0"

/-- Asking for help or for the version is no mistake. -/
def exitCode : Usage → UInt32
  | .help | .version => 0
  | _ => 2

def readBytes (path : String) : IO (Option ByteArray) := do
  try
    return some (← IO.FS.readBinFile path)
  catch _ => return none

def readText (path : String) : IO (Option String) := do
  return (← readBytes path).bind String.fromUTF8?

def variableName (setting : String) : String :=
  String.ofList ((Environment.nameStart ++ setting).toList.map Char.toUpper)

def assignments : IO (List (String × String)) := do
  let found ← Settings.names.mapM fun setting => do
    let name := variableName setting
    return (← IO.getEnv name).map fun value => (name, value)
  return found.filterMap id

def fail (message : String) : IO UInt32 := do
  IO.eprintln message
  return 1

def faultText (fault : Fixture.Fault) : String :=
  fault.message?.getD "the fixture cannot be read"

def rehearse (config : Config) (fixture : Fixture) : IO UInt32 := do
  let beginning ← IO.rand 0 (Nat.pow 2 61)
  let world : World := ⟨Rehearsal.network [], Identifier.stream beginning⟩
  let (result, progress) := (seed config fixture).run world (Progress.start .initial)
  for notice in progress.history.filterMap Event.notice? do
    IO.println notice.line
  match result with
  | .ok _ => return 0
  | .error failure => fail (failure.message?.getD "no placement for a submodel")

def perform (line : CommandLine) : IO UInt32 := do
  let text ← match line.config with
    | some path => readText path
    | none => pure none
  match Layers.load line.given line.config (fun _ => text) (← assignments) with
  | .error fault => fail fault.message
  | .ok settings => match settings.validate with
    | .error reason => fail reason.message
    | .ok config => match Fixture.ofBytes (← readBytes line.file) with
      | .error fault => fail (faultText fault)
      | .ok fixture => rehearse config fixture

end Dataspace.Main

def main (arguments : List String) : IO UInt32 :=
  match Dataspace.CommandLine.parse arguments with
  | .ok line => Dataspace.Main.perform line
  | .error usage => do
    IO.eprintln (Dataspace.Main.describe usage)
    return Dataspace.Main.exitCode usage
