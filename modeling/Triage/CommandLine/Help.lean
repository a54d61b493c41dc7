import Triage.CommandLine.Settings

namespace Triage.CommandLine

def wordsOf : Text → List Text
  | [] => []
  | c :: cs =>
    match cs, wordsOf cs with
    | d :: _, w :: ws => if c = ' ' && d ≠ ' ' then [c] :: w :: ws else (c :: w) :: ws
    | _, _ => [[c]]

/-- Lines of at most `limit` characters, as long as no word is longer. The first argument is the line that is being
filled. -/
def fill (limit : Nat) : Text → List Text → List Text
  | line, [] => [line]
  | line, w :: ws =>
    if line ≠ [] && limit < line.length + w.trimEnd.length then line.trimEnd :: fill limit w ws
    else fill limit (line ++ w) ws

namespace Key

def purpose : Key → String
  | .snapshot => "JSON snapshot of issues, milestones, labels and collaborators"
  | .currentMilestone =>
    "Index of the current milestone; defaults to the snapshot's, then to the first open milestone due on or after today"
  | .today => "Date relative qualifiers are measured from (YYYY-MM-DD); defaults to now"
  | .logLevel => "Log filter, e.g. \"debug\" or \"issue_filter=trace\""
  | .noColor => "Disable colored diagnostics and logs"
  | .showTree => "Print the compiled expression before the results"
  | .help => "Print help"
  | .version => "Print version"

def valueName (k : Key) : Text := k.long.toList.map fun c => if c = '-' then '_' else c.toUpper

def usage (k : Key) : Text :=
  "--".toList ++ k.long.toList ++ if k.takesValue then " <".toList ++ k.valueName ++ ['>'] else []

def heading (k : Key) : Text :=
  (match k.short? with
    | some c => ['-', c, ',', ' ']
    | none => List.replicate 4 ' ') ++ k.usage

def notes (environment : String → Option Text) (k : Key) : Text :=
  let held :=
    match k.environmentName? with
    | some name => " [env: ".toList ++ name.toList ++ '=' :: (environment name).getD [] ++ [']']
    | none => []
  held ++ if k = .logLevel then " [default: ".toList ++ Settings.defaultLogLevel.toList ++ [']'] else []

/-- An option with its description on lines of their own, which end at column 100. -/
def description (environment : String → Option Text) (k : Key) : List Text :=
  let text := k.purpose.toList ++ k.notes environment
  ("  ".toList ++ k.heading) ::
    ((Text.fields '\n' text).flatMap fun t => fill 90 [] (wordsOf t)).map (List.replicate 10 ' ' ++ ·)

end Key

def usage : Text := "issue_filter [OPTIONS] ".toList ++ Key.snapshot.usage ++ " <FILTER>".toList

def help (environment : String → Option Text) : Text :=
  (["Filter and order a snapshot of issues".toList,
    [],
    "Usage: ".toList ++ usage,
    [],
    "Arguments:".toList,
    "  <FILTER>  Filter expression, e.g. \"milestone:current label:bug sort:-updated count:10\"".toList,
    [],
    "Options:".toList] ++ Key.all.flatMap (Key.description environment)).flatMap (· ++ ['\n'])

end Triage.CommandLine
