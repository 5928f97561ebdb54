import ClipCadence.Settings.Rules
import ClipCadence.Validation.Checked

/-!
Settings from a document. Every setting is read on its own, by its rule or, where the document
leaves it out, as the default; other keys are ignored. `override` reads settings with some of
their fields given another value.
-/

namespace ClipCadence.Settings

open Text Validation

def modelName : String := "EmitterConfig"

/-- One issue for each item that is no text; a command without items names no program. -/
def checkCommand : Json → Checked (Option (List RawText))
  | .null => .ok none
  | .list items =>
    let words := items.zipIdx.map fun (item, index) =>
      (Checked.ofRule Rule.rawText item).under (.item index)
    match Checked.all words with
    | .ok [] =>
      .error [⟨[], .custom "command must contain at least the program name", .list items⟩]
    | .ok words => .ok (some words)
    | .error found => .error found
  | raw => .error [⟨[], .list, raw⟩]

/-- The setting of a field in a document. -/
def checkField {α : Type} (field : Field) (default : α) (check : Json → Checked α)
    (fields : List (RawText × Json)) : Checked α :=
  match Json.field? fields field.key with
  | none => .ok default
  | some raw => (check raw).under (.field field.name)

def check (fields : List (RawText × Json)) : Checked Settings :=
  let count := checkField .count defaults.count (.ofRule Rule.count) fields
  let delay := checkField .delay defaults.delay (.ofRule Rule.delay) fields
  let label := checkField .label defaults.label (.ofRule Rule.label) fields
  let backend := checkField .backend defaults.backend (.ofRule Rule.backend) fields
  let command := checkField .command defaults.command checkCommand fields
  let skip := checkField .skipFinalDelay defaults.skipFinalDelay (.ofRule Rule.boolean) fields
  let timeout := checkField .timeout defaults.timeout (.ofRule Rule.timeout) fields
  let all := count.and <| delay.and <| label.and <| backend.and <| command.and <| skip.and timeout
  all.map fun (count, delay, label, backend, command, skip, timeout) =>
    ⟨count, delay, label, backend, command, skip, timeout⟩

/-- The settings of a document, or all that is wrong with it. -/
def validate : Json → Except Refusal Settings
  | .object fields => (check fields).mapError fun issues => ⟨modelName, issues⟩
  | raw => .error ⟨modelName, [⟨[], .object modelName, raw⟩]⟩

/-- Overrides by key, of which `null` is none. -/
abbrev Overrides := List (RawText × Json)

def isGiven : Json → Bool
  | .null => false
  | _ => true

def given (overrides : Overrides) : Overrides := overrides.filter fun entry => isGiven entry.2

/-- The fields of a document after other values have been set. -/
def merge (fields : List (RawText × Json)) (overrides : Overrides) : List (RawText × Json) :=
  overrides.foldl (fun fields entry => Json.setField entry.1 entry.2 fields) fields

/-- The settings with the given overrides, validated again unless there are none. -/
def override (base : Settings) (overrides : Overrides) : Except Refusal Settings :=
  match given overrides with
  | [] => .ok base
  | overrides => validate (.object (merge base.toFields overrides))

end ClipCadence.Settings
