import Std.Time.DateTime.Timestamp
import Triage.CommandLine.Run

namespace Triage.CommandLine

def readEnvironment : IO (List (String × Text)) :=
  (Key.all.filterMap Key.environmentName?).filterMapM fun name => do
    return (← IO.getEnv name).map fun value => (name, value.toList)

def readClock : IO Timestamp := do
  let now ← Std.Time.Timestamp.now
  let nanos := now.toNanosecondsSinceUnixEpoch.val
  let perSecond := Int.ofNat Calendar.nanosPerSecond
  match Timestamp.ofUnix? (nanos / perSecond) (nanos % perSecond).toNat with
  | some t => return t
  | none => throw (IO.userError "the clock shows no date")

/-- Why a file could not be read, with the system's number for it. A directory can be opened and fails when it is read,
where its name is no longer known. -/
def reasonOf : IO.Error → String
  | .noFileOrDirectory .. => "No such file or directory (os error 2)"
  | .permissionDenied .. => "Permission denied (os error 13)"
  | .inappropriateType none .. => "Is a directory (os error 21)"
  | .inappropriateType (some _) .. => "Not a directory (os error 20)"
  | .invalidArgument .. => "File name too long (os error 36)"
  | other => toString other

def readFile (path : Text) : IO File := do
  match ← (IO.FS.readBinFile (String.ofList path)).toBaseIO with
  | .ok bytes => return .ok bytes
  | .error reason => return .error (reasonOf reason).toList

end Triage.CommandLine

open Triage.CommandLine

def main (args : List String) : IO UInt32 := do
  let known ← readEnvironment
  let environment (name : String) := known.lookup name
  let output ←
    match parse environment (args.map String.toList) with
    | .error stop => pure (stopped environment stop)
    | .ok settings => pure (runWith settings (← readClock) (← readFile settings.snapshot))
  IO.eprint (String.ofList output.stderr)
  IO.print (String.ofList output.stdout)
  return output.exit
