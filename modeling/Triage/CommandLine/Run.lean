import Triage.CommandLine.Help
import Triage.Report.Printer
import Triage.Snapshot.Document

namespace Triage.CommandLine

structure Output where
  exit : UInt32
  stdout : Text := []
  stderr : Text := []
  deriving DecidableEq, Repr

def version : String := "issue_filter 0.1.0\n"

def Fault.message : Fault → String
  | .missingArgument => "error: the filter and the snapshot are required\n"
  | .unknownArgument => "error: unexpected argument found\n"
  | .missingValue => "error: a value is required but none was supplied\n"
  | .malformedValue => "error: invalid value\n"
  | .repeatedOption => "error: an option cannot be used multiple times\n"
  | .unneededValue => "error: unexpected value for a flag\n"

def resultLine (issue : Issue) : Text :=
  '#' :: Text.padRight 6 (Text.ofNat issue.id.toNat) ++ issue.title ++ ['\n']

theorem resultLine_eq (issue : Issue) :
    resultLine issue = '#' :: (Nat.toDigits 10 issue.id.toNat).rightpad 6 ' ' ++ issue.title ++ ['\n'] := by
  rw [resultLine, Text.padRight, Text.ofNat, List.rightpad]

def contextOf (settings : Settings) (clock : Timestamp) (snapshot : Snapshot) : Context :=
  { snapshot with currentMilestone := settings.currentIndex? clock snapshot, now := settings.now clock }

def answer (settings : Settings) (clock : Timestamp) (snapshot : Snapshot) : Output :=
  let compiled := Filter.compile settings.filter
  let report := Report.ofDiagnostics? settings.filter compiled.diagnostics (!settings.noColor)
  let shown := compiled.filter.select (contextOf settings clock snapshot)
  { exit := 0
    stdout := (if settings.showTree then compiled.filter.print ++ ['\n'] else []) ++ shown.flatMap resultLine
    stderr := report.elim [] Report.render }

abbrev File := Except Text ByteArray

def failure (settings : Settings) (what reason : String) : Output :=
  { exit := 1
    stderr := "error: failed to ".toList ++ what.toList ++ " snapshot ".toList ++ settings.snapshot ++ ": ".toList ++
      reason.toList ++ ['\n'] }

def runWith (settings : Settings) (clock : Timestamp) (file : File) : Output :=
  match file with
  | .error reason => failure settings "read" (String.ofList reason)
  | .ok bytes =>
    match Snapshot.load bytes with
    | .error .notText => failure settings "read" "stream did not contain valid UTF-8"
    | .error .notSnapshot => failure settings "decode" "not a snapshot"
    | .ok snapshot => answer settings clock snapshot

def stopped (environment : String → Option Text) : Stop → Output
  | .help => { exit := 0, stdout := help environment }
  | .version => { exit := 0, stdout := version.toList }
  | .fault cause => { exit := 2, stderr := cause.message.toList }

end Triage.CommandLine
