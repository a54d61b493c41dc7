import Triage.Calendar.Reader
import Triage.Issue

/-!
The settings of a run, and how they come from the arguments of a command line. An option is settled when the next
argument that needs none of its values comes; only then is its value read.
-/

namespace Triage

def Settings.defaultLogLevel : String := "warn"

structure Settings where
  filter : Text
  snapshot : Text
  currentMilestone : Option UInt64 := none
  today : Option Date := none
  logLevel : Text := Settings.defaultLogLevel.toList
  noColor : Bool := false
  showTree : Bool := false
  deriving DecidableEq, Repr

namespace Settings

/-- The instant that ages are measured from: the beginning of the given day, or what the clock shows. -/
def now (s : Settings) (clock : Timestamp) : Timestamp :=
  match s.today with
  | some d => .midnight d
  | none => clock

/-- The place of the current milestone: as set, or else as the snapshot says, or else the first open milestone that is
still due. -/
def currentIndex? (s : Settings) (clock : Timestamp) (snapshot : Snapshot) : Option UInt64 :=
  s.currentMilestone.or (snapshot.currentMilestone.or
    ((Milestone.currentIndex? snapshot.milestones (s.now clock).date).map UInt64.ofNat))

end Settings

namespace CommandLine

inductive Fault where
  | missingArgument
  | unknownArgument
  /-- An option stands without a value, or a path is empty. -/
  | missingValue
  | malformedValue
  | repeatedOption
  | unneededValue
  deriving DecidableEq, Repr

inductive Stop where
  | help
  | version
  | fault (cause : Fault)
  deriving DecidableEq, Repr

inductive Key where
  | snapshot
  | currentMilestone
  | today
  | logLevel
  | noColor
  | showTree
  | help
  | version
  deriving DecidableEq, Repr

namespace Key

def all : List Key := [.snapshot, .currentMilestone, .today, .logLevel, .noColor, .showTree, .help, .version]

def long : Key → String
  | .snapshot => "snapshot"
  | .currentMilestone => "current-milestone"
  | .today => "today"
  | .logLevel => "log-level"
  | .noColor => "no-color"
  | .showTree => "show-tree"
  | .help => "help"
  | .version => "version"

def short? : Key → Option Char
  | .snapshot => some 's'
  | .help => some 'h'
  | .version => some 'V'
  | _ => none

def takesValue : Key → Bool
  | .snapshot | .currentMilestone | .today | .logLevel => true
  | _ => false

def environmentName? : Key → Option String
  | .snapshot => some "ISSUE_FILTER_SNAPSHOT"
  | .currentMilestone => some "ISSUE_FILTER_CURRENT_MILESTONE"
  | .today => some "ISSUE_FILTER_TODAY"
  | .logLevel => some "ISSUE_FILTER_LOG"
  | .noColor => some "ISSUE_FILTER_NO_COLOR"
  | _ => none

def ofLong? (name : Text) : Option Key := all.find? fun k => k.long.toList == name

def ofShort? (c : Char) : Option Key := all.find? fun k => k.short? == some c

end Key

inductive Pending where
  | none
  | waiting (key : Key)
  | given (key : Key) (value : Text)
  deriving DecidableEq, Repr

structure Progress where
  filter : Option Text := none
  snapshot : Option Text := none
  currentMilestone : Option UInt64 := none
  today : Option Date := none
  logLevel : Option Text := none
  noColor : Option Bool := none
  showTree : Option Bool := none
  pending : Pending := .none
  ended : Bool := false
  deriving DecidableEq, Repr

def index? (t : Text) : Option UInt64 :=
  (Text.unsigned? t).bind fun n => if n < UInt64.size then some (UInt64.ofNat n) else none

def flag? (t : Text) : Option Bool :=
  if t = "true".toList then some true else if t = "false".toList then some false else none

namespace Progress

def fault {α : Type} (cause : Fault) : Except Stop α := .error (.fault cause)

def has (p : Progress) : Key → Bool
  | .snapshot => p.snapshot.isSome
  | .currentMilestone => p.currentMilestone.isSome
  | .today => p.today.isSome
  | .logLevel => p.logLevel.isSome
  | .noColor => p.noColor.isSome
  | .showTree => p.showTree.isSome
  | .help | .version => false

/-- Reads the value of an option. The two that ask for information end the reading. -/
def assign (p : Progress) (key : Key) (value : Text) : Except Stop Progress :=
  if p.has key then fault .repeatedOption
  else
    match key with
    | .snapshot => if value = [] then fault .missingValue else .ok { p with snapshot := some value }
    | .currentMilestone =>
      match index? value with
      | some n => .ok { p with currentMilestone := some n }
      | none => fault .malformedValue
    | .today =>
      match Date.readLoose? value with
      | some d => .ok { p with today := some d }
      | none => fault .malformedValue
    | .logLevel => .ok { p with logLevel := some value }
    | .noColor =>
      match flag? value with
      | some b => .ok { p with noColor := some b }
      | none => fault .malformedValue
    | .showTree =>
      match flag? value with
      | some b => .ok { p with showTree := some b }
      | none => fault .malformedValue
    | .help => .error .help
    | .version => .error .version

def settle (p : Progress) : Except Stop Progress :=
  match p.pending with
  | .none => .ok p
  | .waiting _ => fault .missingValue
  | .given key value => { p with pending := .none }.assign key value

def give (p : Progress) (key : Key) (value : Text) : Except Stop Progress := do
  (← p.settle).assign key value

def await (p : Progress) (key : Key) : Except Stop Progress := do
  return { ← p.settle with pending := .waiting key }

def raise (p : Progress) (key : Key) : Except Stop Progress := p.give key "true".toList

def positional (p : Progress) (arg : Text) : Except Stop Progress :=
  if p.filter.isSome then fault .unknownArgument
  else do return { ← p.settle with filter := some arg }

def long (p : Progress) (arg : Text) : Except Stop Progress :=
  let (name, value) :=
    match arg.cut? ['='] with
    | some (name, value) => (name, some value)
    | none => (arg, none)
  match Key.ofLong? name, value with
  | none, _ => fault .unknownArgument
  | some key, none => if key.takesValue then p.await key else p.raise key
  | some key, some v => if key.takesValue then p.give key v else fault .unneededValue

/-- Flags by their letters, up to an option that takes the rest as its value. -/
def short (p : Progress) : Text → Except Stop Progress
  | [] => .ok p
  | c :: cs =>
    match Key.ofShort? c with
    | none => fault .unknownArgument
    | some key =>
      if key.takesValue then
        match cs with
        | [] => p.await key
        | '=' :: value => p.give key value
        | value => p.give key value
      else
        match p.raise key with
        | .ok next => next.short cs
        | .error stop => .error stop

def step (p : Progress) (arg : Text) : Except Stop Progress :=
  if p.ended then p.positional arg
  else
    match arg with
    | ['-', '-'] => .ok { p with ended := true }
    | '-' :: '-' :: rest => p.long rest
    | '-' :: c :: cs => p.short (c :: cs)
    | _ =>
      match p.pending with
      | .waiting key => .ok { p with pending := .given key arg }
      | _ => p.positional arg

def fallBack (environment : String → Option Text) (p : Progress) (key : Key) : Except Stop Progress :=
  if p.has key then .ok p
  else
    match key.environmentName?.bind environment with
    | some value => p.assign key value
    | none => .ok p

def settings (p : Progress) : Except Stop Settings :=
  match p.filter, p.snapshot with
  | some filter, some snapshot =>
    .ok {
      filter, snapshot
      currentMilestone := p.currentMilestone
      today := p.today
      logLevel := p.logLevel.getD Settings.defaultLogLevel.toList
      noColor := p.noColor.getD false
      showTree := p.showTree.getD false }
  | _, _ => fault .missingArgument

end Progress

def parse (environment : String → Option Text) (args : List Text) : Except Stop Settings := do
  let line ← args.foldlM Progress.step {}
  let settled ← line.settle
  let filled ← Key.all.foldlM (Progress.fallBack environment) settled
  filled.settings

end CommandLine

end Triage
