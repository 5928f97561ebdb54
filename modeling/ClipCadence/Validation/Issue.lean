import ClipCadence.Json.Value

/-!
Reports on values that a schema refuses. An issue says where the refused value stands, why it is
refused, and shows the value as it was given; a refusal collects the issues of one document in
the order in which its parts are declared.
-/

namespace ClipCadence.Validation

/-- A step on the way from a document to one of its parts. -/
inductive Step where
  | field (name : String)
  | item (index : Nat)
  deriving DecidableEq, Repr

def Step.text : Step → String
  | .field name => name
  | .item index => toString index

/-- Why a value is refused. -/
inductive Cause where
  | object (model : String)
  | integer
  | integerText
  | integerSize
  | fraction
  | finite
  | number
  | numberText
  | atLeast (bound : Nat)
  | above (bound : Nat)
  | string
  | unicode
  | empty
  | list
  | custom (message : String)
  | boolean
  | booleanText
  | frozen
  deriving DecidableEq, Repr

namespace Cause

def code : Cause → String
  | .object _ => "model_type"
  | .integer => "int_type"
  | .integerText => "int_parsing"
  | .integerSize => "int_parsing_size"
  | .fraction => "int_from_float"
  | .finite => "finite_number"
  | .number => "float_type"
  | .numberText => "float_parsing"
  | .atLeast _ => "greater_than_equal"
  | .above _ => "greater_than"
  | .string => "string_type"
  | .unicode => "string_unicode"
  | .empty => "string_too_short"
  | .list => "list_type"
  | .custom _ => "value_error"
  | .boolean => "bool_type"
  | .booleanText => "bool_parsing"
  | .frozen => "frozen_instance"

def message : Cause → String
  | .object model => s!"Input should be a valid dictionary or instance of {model}"
  | .integer => "Input should be a valid integer"
  | .integerText => "Input should be a valid integer, unable to parse string as an integer"
  | .integerSize => "Unable to parse input string as an integer, exceeded maximum size"
  | .fraction => "Input should be a valid integer, got a number with a fractional part"
  | .finite => "Input should be a finite number"
  | .number => "Input should be a valid number"
  | .numberText => "Input should be a valid number, unable to parse string as a number"
  | .atLeast bound => s!"Input should be greater than or equal to {bound}"
  | .above bound => s!"Input should be greater than {bound}"
  | .string => "Input should be a valid string"
  | .unicode => "Input should be a valid string, unable to parse raw data as a unicode string"
  | .empty => "String should have at least 1 character"
  | .list => "Input should be a valid list"
  | .custom message => s!"Value error, {message}"
  | .boolean => "Input should be a valid boolean"
  | .booleanText => "Input should be a valid boolean, unable to interpret input"
  | .frozen => "Instance is frozen"

end Cause

structure Issue where
  place : List Step
  cause : Cause
  input : Json

namespace Issue

/-- The same issue of a part that stands one step further from the document. -/
def under (step : Step) (issue : Issue) : Issue := { issue with place := step :: issue.place }

def lines (issue : Issue) : List String :=
  let explanation := "  " ++ issue.cause.message ++ " [type=" ++ issue.cause.code ++
    ", input_value=" ++ issue.input.excerpt ++ ", input_type=" ++ issue.input.typeWord ++ "]"
  let location := if issue.place.isEmpty then []
    else [String.intercalate "." (issue.place.map Step.text)]
  location ++ [explanation,
    "    For further information visit https://errors.pydantic.dev/2.14/v/" ++ issue.cause.code]

end Issue

/-- The issues of one document, of which there is at least one. -/
structure Refusal where
  model : String
  issues : List Issue

def Refusal.message (refusal : Refusal) : String :=
  let count := refusal.issues.length
  let noun := if count = 1 then "error" else "errors"
  String.intercalate "\n"
    (s!"{count} validation {noun} for {refusal.model}" :: refusal.issues.flatMap Issue.lines)

end ClipCadence.Validation
