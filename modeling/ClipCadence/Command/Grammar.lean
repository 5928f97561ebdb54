import ClipCadence.Command.Options
import ClipCadence.Files.UserSettings
import ClipCadence.Number.Argument
import ClipCadence.Settings.Validate

/-!
The commands and what may be said with them. Some options of `run` can also be given by an
environment variable, which counts if it is not empty and the option is absent; of several
values for one option the last one counts.
-/

namespace ClipCadence.Command

open Files.UserSettings Number Text

structure RunOptions where
  count : Option Int
  delay : Option Binary64
  label : Option String
  backend : Option String
  skipFinalDelay : Option Bool
  dryRun : Bool
  summary : Bool
  verbose : Bool
  settings : Option String

inductive Request where
  | run (options : RunOptions)
  | backends
  | showSettings (file : Option String)
  | initSettings (file : Option String) (force : Bool)
  | validateSettings (file : String)
  | settingsPath

/-! ### The command `run` -/

inductive RunOption where
  | count
  | delay
  | label
  | backend
  | skipFinalDelay (skip : Bool)
  | dryRun
  | summary (wanted : Bool)
  | verbose
  | settings
  deriving DecidableEq, Repr

def runForms : List (OptionForm RunOption) := [
  ⟨"--count", some 'n', true, .count⟩,
  ⟨"--delay", some 'd', true, .delay⟩,
  ⟨"--label", some 'l', true, .label⟩,
  ⟨"--backend", some 'b', true, .backend⟩,
  ⟨"--skip-final-delay", none, false, .skipFinalDelay true⟩,
  ⟨"--keep-final-delay", none, false, .skipFinalDelay false⟩,
  ⟨"--dry-run", none, false, .dryRun⟩,
  ⟨"--summary", none, false, .summary true⟩,
  ⟨"--no-summary", none, false, .summary false⟩,
  ⟨"--verbose", some 'v', false, .verbose⟩,
  ⟨"--config", some 'c', true, .settings⟩]

/-- The value of the last option of a kind. -/
def lastValue {α : Type} [DecidableEq α] (option : α) (given : List (Given α)) : Option String :=
  (given.reverse.find? fun entry => entry.1 = option).bind (·.2)

/-- The value of an option, or of the environment variable that stands in for it. -/
def valueOr (environment : Environment) (variableName : String) (option : RunOption)
    (given : List (Given RunOption)) : Option String :=
  match lastValue option given with
  | some value => some value
  | none => (value? environment variableName).filter (· ≠ "")

/-- The last of two opposite flags. -/
def lastFlag (flag : Bool → RunOption) (given : List (Given RunOption)) : Option Bool :=
  given.reverse.findSome? fun entry =>
    if entry.1 = flag true then some true
    else if entry.1 = flag false then some false
    else none

def hasFlag {α : Type} [DecidableEq α] (flag : α) (given : List (Given α)) : Bool :=
  given.any fun entry => entry.1 = flag

def converted {α : Type} (read? : List Char → Option α) :
    Option String → Except UsageError (Option α)
  | none => .ok none
  | some text =>
    match read? text.toList with
    | some value => .ok (some value)
    | none => .error (.badValue text)

def noOperands {α : Type} (result : α) : List String → Except UsageError α
  | [] => .ok result
  | operand :: _ => .error (.extraOperand operand)

/-- An empty file name is none. -/
def fileName (value : Option String) : Option String := value.filter (· ≠ "")

def readRun (readers : Argument.Readers) (environment : Environment) (arguments : List String) :
    Except UsageError Request := do
  let (given, operands) ← readOptions runForms arguments
  let count ← converted readers.integer? (valueOr environment "CLIP_EMITTER_COUNT" .count given)
  let delay ← converted readers.real? (valueOr environment "CLIP_EMITTER_DELAY" .delay given)
  noOperands (.run {
    count := count
    delay := delay
    label := valueOr environment "CLIP_EMITTER_LABEL" .label given
    backend := valueOr environment "CLIP_EMITTER_BACKEND" .backend given
    skipFinalDelay := lastFlag .skipFinalDelay given
    dryRun := hasFlag .dryRun given
    summary := (lastFlag .summary given).getD true
    verbose := hasFlag .verbose given
    settings := fileName (lastValue .settings given) }) operands

/-- The settings that the options of a run override. -/
def RunOptions.overrides (options : RunOptions) : Settings.Overrides :=
  let entry {α : Type} (field : Settings.Field) (toJson : α → Json) (value : Option α) :=
    value.toList.map fun value => (field.key, toJson value)
  entry .count Json.int options.count ++ entry .delay Json.real options.delay ++
    entry .label (fun text => Json.text (.ofString text)) options.label ++
    entry .backend (fun text => Json.text (.ofString text)) options.backend ++
    entry .skipFinalDelay Json.bool options.skipFinalDelay

/-! ### The other commands -/

inductive FileOption where
  | file
  | force
  deriving DecidableEq, Repr

def showForms : List (OptionForm FileOption) := [⟨"--config", some 'c', true, .file⟩]

def initForms : List (OptionForm FileOption) :=
  [⟨"--output", some 'o', true, .file⟩, ⟨"--force", some 'f', false, .force⟩]

def noForms : List (OptionForm FileOption) := []

def readBackends (arguments : List String) : Except UsageError Request := do
  let (_, operands) ← readOptions noForms arguments
  noOperands .backends operands

def readShow (arguments : List String) : Except UsageError Request := do
  let (given, operands) ← readOptions showForms arguments
  noOperands (.showSettings (fileName (lastValue .file given))) operands

def readInit (arguments : List String) : Except UsageError Request := do
  let (given, operands) ← readOptions initForms arguments
  noOperands (.initSettings (fileName (lastValue .file given)) (hasFlag .force given)) operands

def readValidate (arguments : List String) : Except UsageError Request := do
  let (_, operands) ← readOptions noForms arguments
  match operands with
  | [] => .error .missingOperand
  | file :: rest => noOperands (.validateSettings file) rest

def readPath (arguments : List String) : Except UsageError Request := do
  let (_, operands) ← readOptions noForms arguments
  noOperands .settingsPath operands

/-- The name of a command, which may stand after two lone dashes, and its arguments. -/
def splitCommand : List String → Except UsageError (String × List String)
  | [] => .error .noCommand
  | first :: rest =>
    if first = "--" then
      match rest with
      | [] => .error .noCommand
      | name :: rest => .ok (name, rest)
    else if Reading.isOption first.toList then .error (.unknownOption first)
    else .ok (first, rest)

def readSettings (arguments : List String) : Except UsageError Request := do
  let (name, rest) ← splitCommand arguments
  match name with
  | "show" => readShow rest
  | "init" => readInit rest
  | "validate" => readValidate rest
  | "path" => readPath rest
  | name => .error (.unknownCommand name)

/-- The command on a command line. -/
def read (readers : Argument.Readers) (environment : Environment) (arguments : List String) :
    Except UsageError Request := do
  let (name, rest) ← splitCommand arguments
  match name with
  | "run" => readRun readers environment rest
  | "backends" => readBackends rest
  | "config" => readSettings rest
  | name => .error (.unknownCommand name)

end ClipCadence.Command
