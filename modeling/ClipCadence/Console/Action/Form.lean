/-!
What an expression stands for, as far as literals need it. Texts, truth values, nothing and tuples
of what can be looked up can be looked up themselves, and so can numbers; sets and tables cannot.
A sign may stand before a number once, and a real number and an imaginary one make a number
together.
-/

namespace ClipCadence.Console.Action

inductive Form where
  | number (imaginary signed : Bool)
  | hashable
  | unhashable (kind : String)
  | failing (reason : String)
  deriving DecidableEq, Repr

namespace Form

def noLiteral : Form := .failing "malformed node or string"

/-- What members of a set or keys of a table come to, one after the other, with their values. -/
def lookedUp (kind : String) : List (Form × Form) → Form
  | [] => .unhashable kind
  | (.failing reason, _) :: _ => .failing reason
  | (_, .failing reason) :: _ => .failing reason
  | (.unhashable kind, _) :: _ => .failing s!"unhashable type: '{kind}'"
  | _ :: rest => lookedUp kind rest

def ofSet (members : List Form) : Form :=
  lookedUp "set" (members.map fun member => (member, .hashable))

def ofTable (entries : List (Form × Form)) : Form := lookedUp "dict" entries

/-- The key of an entry that stands for all entries of another table. -/
def unpacked : Form := .failing "malformed node or string: None"

def ofTuple (members : List Form) : Form :=
  match members.find? fun member => member matches .failing _ with
  | some first => first
  | none => (members.find? fun member => member matches .unhashable _).getD .hashable

def sum : Form → Form → Form
  | .number false _, .number true false => .hashable
  | _, _ => noLiteral

def signed : Form → Form
  | .number imaginary false => .number imaginary true
  | _ => noLiteral

end Form

structure Value where
  /-- How an error calls an expression of this kind. -/
  noun : String
  form : Form
  /-- The expression, if it is just a name. -/
  name : Option String
  /-- Whether an arithmetical operator may stand beside the expression. -/
  isOperand : Bool
  /-- How an error calls the part of the expression to which a loop cannot give values. -/
  obstacle : Option String

namespace Value

/-- An expression that is no literal. -/
def other (noun : String) (isOperand : Bool) : Value :=
  ⟨noun, .noLiteral, none, isOperand, some noun⟩

def constant (noun : String) (form : Form) : Value := ⟨noun, form, none, true, some noun⟩

def ofName (name : String) : Value := ⟨"name", .noLiteral, some name, true, none⟩

def part : Value := ⟨"attribute", .noLiteral, none, true, none⟩

def tuple (members : List Value) : Value where
  noun := "tuple"
  form := .ofTuple (members.map (·.form))
  name := none
  isOperand := true
  obstacle := members.findSome? (·.obstacle)

def starred (value : Value) : Value :=
  ⟨"starred", .noLiteral, none, value.isOperand, value.obstacle⟩

/-- An expression inside of parentheses. -/
def grouped (value : Value) : Value := { value with name := none, isOperand := true }

/-- Whether a loop can give values to the expression. -/
def isTarget (value : Value) : Bool :=
  ["name", "attribute", "tuple"].contains value.noun && value.obstacle.isNone

end Value

end ClipCadence.Console.Action
