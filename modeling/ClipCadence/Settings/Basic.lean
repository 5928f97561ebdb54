import ClipCadence.Json.Value

/-!
The settings of a run: how many events, how far apart, under which label, and how they reach the
clipboard. `Usable` is what a run relies on; settings that have been read from a document are
usable. `toJson` is the document of the settings.
-/

namespace ClipCadence

open Number Text

structure Settings where
  count : Nat
  delay : Binary64
  label : String
  backend : Option RawText
  command : Option (List RawText)
  skipFinalDelay : Bool
  timeout : Binary64
  deriving DecidableEq

namespace Settings

def defaults : Settings where
  count := 100
  delay := .ofNat 2
  label := "Test Event"
  backend := none
  command := none
  skipFinalDelay := false
  timeout := .ofNat 5

/-- At least one event; no negative delay and some time for the tool, neither of them NaN; a
label with at least one character; and a command, if there is one, that names a program. -/
structure Usable (s : Settings) : Prop where
  count_pos : 1 ≤ s.count
  delay_nonnegative : s.delay.isNonnegative = true
  label_ne_empty : s.label ≠ ""
  command_ne_nil : s.command ≠ some []
  timeout_positive : s.timeout.isPositive = true

/-- The settings in the order in which a document lists them. -/
inductive Field where
  | count
  | delay
  | label
  | backend
  | command
  | skipFinalDelay
  | timeout
  deriving DecidableEq, Repr

namespace Field

def all : List Field :=
  [.count, .delay, .label, .backend, .command, .skipFinalDelay, .timeout]

def name : Field → String
  | .count => "count"
  | .delay => "delay"
  | .label => "label"
  | .backend => "backend"
  | .command => "command"
  | .skipFinalDelay => "skip_final_delay"
  | .timeout => "timeout"

def key (field : Field) : RawText := RawText.ofString field.name

theorem mem_all (field : Field) : field ∈ all := by cases field <;> decide

end Field

def value (s : Settings) : Field → Json
  | .count => .int s.count
  | .delay => .real s.delay
  | .label => .text (.ofString s.label)
  | .backend => (s.backend.map Json.text).getD .null
  | .command => (s.command.map fun words => Json.list (words.map Json.text)).getD .null
  | .skipFinalDelay => .bool s.skipFinalDelay
  | .timeout => .real s.timeout

def toFields (s : Settings) : List (RawText × Json) :=
  Field.all.map fun field => (field.key, s.value field)

def toJson (s : Settings) : Json := .object s.toFields

end Settings

end ClipCadence
