import ClipCadence.Console.Action.Token

/-!
Reading tokens. A reading goes on from some tokens to those that are left. It stops where nothing
that it looks for can be read, and then another reading may be tried at the same place
(`attempt`, `ahead`); or it stops for a reason that settles what is wrong.
-/

namespace ClipCadence.Console.Action

inductive Stop where
  /-- What is looked for is not there. -/
  | absent
  | wrong (reason : String)
  deriving DecidableEq, Repr

abbrev Reading := StateT (List Token) (Except Stop)

def absent {α : Type} : Reading α := throw .absent

def wrong {α : Type} (reason : String) : Reading α := throw (.wrong reason)

/-- What a reading finds; if it is not there, the reading leaves all tokens. -/
def attempt {α : Type} (reading : Reading α) : Reading (Option α) := fun tokens =>
  match reading tokens with
  | .ok (found, rest) => .ok (some found, rest)
  | .error .absent => .ok (none, tokens)
  | .error (.wrong reason) => .error (.wrong reason)

/-- What a reading would find. It leaves all tokens. -/
def ahead {α : Type} (reading : Reading α) : Reading (Option α) := do
  let tokens ← get
  let found ← attempt reading
  set tokens
  return found

/-- The next token. There is none where a bracket is open at the end. -/
def peek : Reading Token := do
  match (← get).headD .finish with
  | .unclosed bracket => wrong s!"'{bracket}' was never closed"
  | .backslash => wrong "unexpected character after line continuation character"
  | .broken reason => wrong reason
  | token => return token

def skip : Reading Unit := modify List.tail

def nextIs (token : Token) : Reading Bool := return (← peek) = token

/-- Skips a token if it comes next. -/
def accept (token : Token) : Reading Bool := do
  if ← nextIs token then
    skip
    return true
  else return false

def expect (token : Token) : Reading Unit := do
  if !(← accept token) then absent

def keywords : List String := ["False", "None", "True", "and", "as", "assert", "async", "await",
  "break", "class", "continue", "def", "del", "elif", "else", "except", "finally", "for", "from",
  "global", "if", "import", "in", "is", "lambda", "nonlocal", "not", "or", "pass", "raise",
  "return", "try", "while", "with", "yield"]

def constants : List String := ["False", "None", "True"]

/-- The name that comes next, if it is not a keyword. -/
def name? : Token → Option String
  | .name text => if keywords.contains text then none else some text
  | _ => none

def expectName : Reading String := do
  match name? (← peek) with
  | some text =>
    skip
    return text
  | none => absent

end ClipCadence.Console.Action
