/-!
Patterns of text. A pattern is tried at a place of a text; of the ways in which it can match there
the first one counts, where an alternative is tried from left to right and a repetition tries to
go on before it stops, or stops before it goes on if it is lazy. A pattern may mark parts of what
it matches; `marks` are the marked parts of all matches in a text, each of which starts after the
one before.
-/

namespace ClipCadence.Text

inductive Pattern where
  /-- One character of a class. -/
  | one (p : Char → Bool)
  | seq (first second : Pattern)
  | either (first second : Pattern)
  /-- At least `least` times, at most `extra` times more, or as often as there are characters. -/
  | many (isLazy : Bool) (least : Nat) (extra : Option Nat) (body : Pattern)
  | mark (body : Pattern)
  /-- No characters, at a place before which there is none of a class. -/
  | notAfter (p : Char → Bool)
  /-- No characters, at a place where exactly one neighbour is of a class, or where not. -/
  | edge (expected : Bool) (p : Char → Bool)

namespace Pattern

/-- A place in a text: what is left of it, the character before, and the parts that have been
marked on the way, as numbers of characters. -/
structure Place where
  position : Nat
  before : Option Char
  rest : List Char
  marked : List (Nat × Nat)

def Place.atEdge (p : Char → Bool) (s : Place) : Bool := s.before.any p != s.rest.head?.any p

/-- Repeats a step until the place is good enough for `next`. -/
def loop {α : Type} (step : Place → (Place → Option α) → Option α) (isLazy : Bool) :
    (least extra : Nat) → Place → (Place → Option α) → Option α
  | 0, 0, s, next => next s
  | 0, extra + 1, s, next =>
    if isLazy then next s <|> step s fun s => loop step isLazy 0 extra s next
    else (step s fun s => loop step isLazy 0 extra s next) <|> next s
  | least + 1, extra, s, next => step s fun s => loop step isLazy least extra s next

/-- The first way to match a pattern at a place after which `next` succeeds. -/
def run {α : Type} : Pattern → Place → (Place → Option α) → Option α
  | .one p, s, next =>
    match s.rest with
    | [] => none
    | c :: rest => if p c then next ⟨s.position + 1, some c, rest, s.marked⟩ else none
  | .seq first second, s, next => first.run s fun s => second.run s next
  | .either first second, s, next => first.run s next <|> second.run s next
  | .many isLazy least extra body, s, next =>
    loop (fun s next => body.run s next) isLazy least (extra.getD s.rest.length) s next
  | .mark body, s, next =>
    body.run s fun stop =>
      next { stop with marked := stop.marked ++ [(s.position, stop.position)] }
  | .notAfter p, s, next => if s.before.any p then none else next s
  | .edge expected p, s, next => if s.atEdge p = expected then next s else none

/-- The marked parts of the matches that start after `position` characters or later. The next
`skip` characters belong to the last match. -/
def marksFrom (pattern : Pattern) (position : Nat) (before : Option Char) :
    (skip : Nat) → List Char → List (Nat × Nat)
  | _, [] => []
  | skip + 1, c :: rest => marksFrom pattern (position + 1) (some c) skip rest
  | 0, c :: rest =>
    match pattern.run ⟨position, before, c :: rest, []⟩ some with
    | none => marksFrom pattern (position + 1) (some c) 0 rest
    | some stop =>
      stop.marked ++
        marksFrom pattern (position + 1) (some c) (stop.position - position - 1) rest

def marks (pattern : Pattern) (text : List Char) : List (Nat × Nat) :=
  (pattern.marksFrom 0 none 0 text).filter fun (start, stop) => start < stop

/-! ### Building patterns -/

def char (c : Char) : Pattern := .one (· = c)

def oneOf (chars : String) : Pattern := .one chars.toList.contains

/-- One after the other. -/
def all : List Pattern → Pattern
  | [] => .many false 0 (some 0) (.one fun _ => true)
  | [last] => last
  | first :: rest => .seq first (all rest)

/-- The first that matches. -/
def any : List Pattern → Pattern
  | [] => .one fun _ => false
  | [last] => last
  | first :: rest => .either first (any rest)

def word (text : String) : Pattern := all (text.toList.map char)

def star (body : Pattern) : Pattern := .many false 0 none body

def plus (body : Pattern) : Pattern := .many false 1 none body

def times (n : Nat) (body : Pattern) : Pattern := .many false n (some 0) body

/-- At least once, at most `n` times. -/
def upTo (n : Nat) (body : Pattern) : Pattern := .many false 1 (some (n - 1)) body

def optional (body : Pattern) : Pattern := .many false 0 (some 1) body

end Pattern

end ClipCadence.Text
