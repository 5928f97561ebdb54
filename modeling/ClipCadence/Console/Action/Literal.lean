import ClipCadence.Console.Action.Expression
import ClipCadence.Text.Blank

/-!
Parameters of an action. They are a literal: a number, a quoted text, a truth value or nothing, or a
tuple, a set or a table of literals, the members of sets and the keys of tables being such as can
be looked up. Before a list of parameters in parentheses there may be the name of what to do, and
a name alone has no parameters.

`Fault` says why parameters are refused. Parameters that are no expression at all are told apart
from expressions that are no literal.
-/

namespace ClipCadence.Console.Action

open Text

inductive Fault where
  /-- The parameters are no expression; `read` is the part of them that was read as one. -/
  | form (read : List Char) (reason : String)
  | value (reason : String)
  deriving DecidableEq, Repr

/-- Checks that a text is a literal. What is wrong with a token comes before all else. -/
def checkLiteral (text : List Char) : Except Fault Unit :=
  let tokens := Token.ofText text
  match tokens.getLast? with
  | some (.broken reason) => .error (.form text reason)
  | _ =>
    match formOf tokens with
    | .ok (.failing reason) => .error (.value reason)
    | .ok _ => .ok ()
    | .error reason => .error (.form text reason)

/-- Checks the parameters of an action. -/
def check (parameters : List Char) : Except Fault Unit :=
  let text := trim parameters
  let rest := text.dropWhile fun c => isWord c || c = '.'
  if rest.isEmpty then .ok ()
  else if rest.head? = some '(' && rest.getLast? = some ')' && !rest.contains '\n' then
    checkLiteral rest
  else checkLiteral text

end ClipCadence.Console.Action
