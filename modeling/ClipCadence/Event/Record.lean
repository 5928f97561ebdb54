import ClipCadence.Event.ContentType
import ClipCadence.Event.Payload
import ClipCadence.Validation.Issue

/-!
Events. An event has an index, counted from one, the payload it puts on the clipboard, and the
moment at which it was made. What it is expected to be recognised as follows from the payload.

An event is frozen: no name of it can be given another value. Names that start with an underscore
are not its own and take any value, but for a few that every object has.
-/

namespace ClipCadence

open Validation

structure Event where
  index : Nat
  payload : String
  moment : Moment
  deriving DecidableEq

namespace Event

def contentType (event : Event) : ContentType := ContentType.classify event.payload

def make (label : String) (index : Nat) (moment : Moment) : Event :=
  ⟨index, Payload.text label index moment, moment⟩

def modelName : String := "EventRecord"

/-- The event with an index that has not been checked. -/
def create (label : String) (index : Int) (moment : Moment) : Except Refusal Event :=
  if 1 ≤ index then .ok (make label index.toNat moment)
  else .error ⟨modelName, [⟨[.field "index"], .atLeast 1, .int index⟩]⟩

/-- Why a name cannot be given a value. -/
inductive AssignError where
  | frozen (refusal : Refusal)
  | notClass (value : Json)
  | notTable (value : Json)
  | notWritable
  | noSetter

def AssignError.message : AssignError → String
  | .frozen refusal => refusal.message
  | .notClass value => s!"__class__ must be set to a class, not '{value.typeWord}' object"
  | .notTable value => s!"__dict__ must be set to a dictionary, not a '{value.typeWord}'"
  | .notWritable => s!"attribute '__weakref__' of '{modelName}' objects is not writable"
  | .noSetter => s!"property '__fields_set__' of '{modelName}' object has no setter"

def isTable : Json → Bool
  | .object _ => true
  | _ => false

/-- An attempt to give a name of an event a value. -/
def assign (name : String) (value : Json) : Except AssignError Unit :=
  if name = "__class__" then .error (.notClass value)
  else if name = "__dict__" ∧ isTable value = false then .error (.notTable value)
  else if name = "__weakref__" then .error .notWritable
  else if name = "__fields_set__" then .error .noSetter
  else if name.toList.head? = some '_' then .ok ()
  else .error (.frozen ⟨modelName, [⟨[.field name], .frozen, value⟩]⟩)

theorem create_of_pos (label : String) {index : Nat} (h : 1 ≤ index) (moment : Moment) :
    create label index moment = .ok (make label index moment) := by
  have : (1 : Int) ≤ index := by omega
  simp [create, this]

end Event

end ClipCadence
