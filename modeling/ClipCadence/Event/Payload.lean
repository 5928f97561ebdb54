import ClipCadence.Moment

/-!
The text that an event puts on the clipboard: the label, the index of the event and the time of
day. `decode?` reads the three parts off a payload from its end, without knowing the label.
-/

namespace ClipCadence.Payload

open Number

def write (label : List Char) (index : Int) (moment : Moment) : List Char :=
  label ++ ' ' :: (Numeral.write index ++ [' ', '-', ' '] ++ moment.clock)

def text (label : String) (index : Int) (moment : Moment) : String :=
  String.ofList (write label.toList index moment)

/-- What a payload tells about its event. -/
structure Parts where
  label : List Char
  index : Nat
  hour : Nat
  minute : Nat
  second : Nat
  deriving DecidableEq, Repr

/-- Reads a payload backwards: eight characters of time, the separator, the digits of the index,
one space, and the label is what is left. -/
def decode? (payload : List Char) : Option Parts :=
  match payload.reverse with
  | s1 :: s2 :: ':' :: m1 :: m2 :: ':' :: h1 :: h2 :: ' ' :: '-' :: ' ' :: rest =>
    match rest.span Char.isDigit with
    | (digits, ' ' :: label) =>
      some {
        label := label.reverse
        index := Numeral.value digits.reverse
        hour := Numeral.value [h2, h1]
        minute := Numeral.value [m2, m1]
        second := Numeral.value [s2, s1] }
    | _ => none
  | _ => none

end ClipCadence.Payload
