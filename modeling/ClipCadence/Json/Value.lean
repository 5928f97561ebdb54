import ClipCadence.Number.Decimal
import ClipCadence.Number.Numeral
import ClipCadence.Text.Quoted

/-!
JSON documents. Integers have any size, other numbers are doubles, and strings may hold half of a
surrogate pair. An object keeps the order in which its keys first occur; of several values for
one key the last one counts.

`literal` is how a validation report shows a value, and `excerpt` is that literal cut to 50
bytes.
-/

namespace ClipCadence

open Text Number

inductive Json where
  | null
  | bool (value : Bool)
  | int (value : Int)
  | real (value : Binary64)
  | text (value : RawText)
  | list (items : List Json)
  | object (fields : List (RawText × Json))
  deriving Inhabited

namespace Json

/-- The fields of an object after one more field has been read. -/
def setField (key : RawText) (value : Json) :
    List (RawText × Json) → List (RawText × Json)
  | [] => [(key, value)]
  | (k, v) :: rest => if k = key then (k, value) :: rest else (k, v) :: setField key value rest

def field? (fields : List (RawText × Json)) (key : RawText) : Option Json :=
  (fields.find? fun field => field.1 = key).map (·.2)

theorem field?_setField_self (key : RawText) (value : Json) (fields : List (RawText × Json)) :
    field? (setField key value fields) key = some value := by
  induction fields with
  | nil => simp [setField, field?]
  | cons f rest ih =>
    by_cases h : f.1 = key
    · simp [setField, field?, h]
    · simpa [setField, field?, h] using ih

theorem field?_setField_of_ne {key other : RawText} (value : Json)
    (fields : List (RawText × Json)) (h : other ≠ key) :
    field? (setField key value fields) other = field? fields other := by
  induction fields with
  | nil => simp [setField, field?, h.symm]
  | cons f rest ih =>
    obtain ⟨k, v⟩ := f
    by_cases hk : k = key
    · have hko : ¬k = other := fun e => h (e.symm.trans hk)
      simp [setField, field?, hk, h.symm]
    · by_cases ho : k = other
      · subst ho
        simp [setField, field?, hk]
      · have step := ih
        simp only [field?] at step
        simp [setField, field?, hk, ho, step]

/-- The word for the type of a value in a validation report. -/
def typeWord : Json → String
  | .null => "NoneType"
  | .bool _ => "bool"
  | .int _ => "int"
  | .real _ => "float"
  | .text _ => "str"
  | .list _ => "list"
  | .object _ => "dict"

def separated (texts : List (List Char)) : List Char := List.intercalate [',', ' '] texts

mutual

def literal : Json → List Char
  | .null => "None".toList
  | .bool value => (if value then "True" else "False").toList
  | .int value => Numeral.write value
  | .real value => value.plain.toList
  | .text value => value.quoted.toList
  | .list items => '[' :: separated (literals items) ++ [']']
  | .object fields => '\x7b' :: separated (fieldLiterals fields) ++ ['\x7d']

def literals : List Json → List (List Char)
  | [] => []
  | item :: rest => literal item :: literals rest

def fieldLiterals : List (RawText × Json) → List (List Char)
  | [] => []
  | (key, value) :: rest =>
    (key.quoted.toList ++ ':' :: ' ' :: literal value) :: fieldLiterals rest

end

def byteLength (text : List Char) : Nat := text.foldr (fun c length => c.utf8Size + length) 0

/-- The longest start of a text that has at most `room` bytes. -/
def takeBytes : Nat → List Char → List Char
  | _, [] => []
  | room, c :: rest => if c.utf8Size ≤ room then c :: takeBytes (room - c.utf8Size) rest else []

/-- A literal of more than 50 bytes shows at most 25 of its start and 24 of its end. -/
def excerpt (value : Json) : String :=
  let text := value.literal
  String.ofList <|
    if byteLength text ≤ 50 then text
    else takeBytes 25 text ++ "...".toList ++ (takeBytes 24 text.reverse).reverse

end Json

end ClipCadence
