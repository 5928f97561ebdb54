import ClipCadence.Console.Action.Form
import ClipCadence.Console.Action.Reading

/-!
Expressions. What is looked for is an expression at some depth of brackets. Where it is only
`tried`, what follows it is not looked at; elsewhere the reason why it cannot go on as it does is
looked for in what follows.

All functions take an amount of fuel, of which each step down uses up a unit.
-/

namespace ClipCadence.Console.Action

inductive Level where
  | disjunction
  | conjunction
  | inversion
  | comparison
  | arithmetic
  deriving DecidableEq, Repr

def comparisons : List String := ["==", "!=", "<", ">", "<=", ">="]

def arithmetics : List String :=
  ["+", "-", "*", "/", "//", "%", "@", "**", "&", "|", "^", "<<", ">>"]

/-- The sign that comes next, which is one of some texts. -/
def oneOf (texts : List String) : Reading String := do
  let next ← peek
  match texts.find? fun text => next = .sign text with
  | some text =>
    skip
    return text
  | none => absent

/-- The operator that comes next, which is one of a level. -/
def operator (level : Level) : Reading String := do
  match level with
  | .disjunction =>
    expect (.name "or")
    return "or"
  | .conjunction =>
    expect (.name "and")
    return "and"
  | .inversion => absent
  | .comparison =>
    if ← accept (.name "in") then return "in"
    if ← accept (.name "is") then
      let _ ← accept (.name "not")
      return "is"
    if ← accept (.name "not") then
      expect (.name "in")
      return "not in"
    oneOf comparisons
  | .arithmetic => oneOf arithmetics

def combine (level : Level) (operator : String) (left right : Value) : Value where
  noun := if level = .comparison then "comparison" else "expression"
  form := if operator = "+" ∨ operator = "-" then left.form.sum right.form else .noLiteral
  name := none
  isOperand := level = .arithmetic
  obstacle :=
    if level = .comparison then
      if operator = "in" ∨ left.noun = "comparison" then left.obstacle else none
    else some "expression"

/-- Names that were commands once. -/
def commands : List String := ["print", "exec"]

/-- Whether nothing can be said about two expressions that follow each other, given the tokens at
their start. -/
def isAmbiguous (tokens : List Token) : Bool :=
  match tokens with
  | .name text :: .text .. :: _ => !keywords.contains text
  | .name text :: _ => ["_", "case", "match"].contains text
  | _ => false

def isText (token : Token) : Bool := token matches .text ..

/-- What some quoted texts make together. They are of the `kind` of those before them, if any. -/
def joined (kind : Option Bool) (template : Bool) : List Token → Reading Value
  | .text bytes marked flaw :: rest => do
    match flaw with
    | some reason => wrong reason
    | none =>
      if kind.any (· ≠ bytes) then wrong "cannot mix bytes and nonbytes literals"
      joined (some bytes) (template || marked) rest
  | _ =>
    return if template then .other "f-string expression" true else .constant "literal" .hashable

/-- Quoted texts that follow each other are one. -/
def texts : Reading Value := do
  let tokens ← get
  set (tokens.dropWhile isText)
  let _ ← peek
  joined none false (tokens.takeWhile isText)

/-- What an argument was that came before. -/
inductive Argument where
  | positional
  | keyword
  | unpacking
  deriving DecidableEq, Repr

mutual

def expression : (fuel : Nat) → (tried : Bool) → (depth : Nat) → Reading Value
  | 0, _, _ => absent
  | fuel + 1, tried, depth => do
    let start ← get
    if ← accept (.name "lambda") then
      parameters fuel tried depth
      let _ ← expression fuel tried depth
      return .other "lambda" false
    let value ← binary fuel tried depth .disjunction
    if !tried then
      let command := value.name.filter commands.contains
      let isAlone ← if isAmbiguous start then pure false else do
        let next ← ahead (expression fuel true depth)
        if next.isSome && command.isNone && depth ≠ 0 then
          wrong "invalid syntax. Perhaps you forgot a comma?"
        pure (value.name.isSome && next.isNone)
      let unfinished ← ahead do
        expect (.name "if")
        let _ ← binary fuel tried depth .disjunction
        return !(← nextIs (.name "else")) && !(← nextIs (.sign ":"))
      if unfinished = some true then wrong "expected 'else' after 'if' expression"
      match start with
      | first :: rest =>
        match name? first with
        | some name =>
          if !isAlone && rest.head? ≠ some (.sign "(") then
            let argument ← ahead do
              set rest
              expressions fuel tried depth
            if argument.isSome && commands.contains name then
              wrong s!"Missing parentheses in call to '{name}'. Did you mean {name}(...)?"
        | none => pure ()
      | [] => pure ()
    let conditional ← attempt do
      expect (.name "if")
      let _ ← binary fuel tried depth .disjunction
      expect (.name "else")
      let _ ← expression fuel tried depth
    return if conditional.isSome then .other "conditional expression" false else value

/-- Expressions with commas between them, any of which may have a star. -/
def expressions : (fuel : Nat) → (tried : Bool) → (depth : Nat) → Reading Value
  | 0, _, _ => absent
  | fuel + 1, tried, depth => do
    let first ← if ← accept (.sign "*") then do
      pure (← binary fuel tried depth .arithmetic).starred
      else expression fuel tried depth
    if ← accept (.sign ",") then
      let rest ← attempt (expressions fuel tried depth)
      return .tuple (first :: rest.toList)
    else return first

/-- The parameters of a function up to its colon. -/
def parameters : (fuel : Nat) → (tried : Bool) → (depth : Nat) → Reading Unit
  | 0, _, _ => absent
  | fuel + 1, tried, depth => do
    if ← accept (.sign ":") then return
    let star ← attempt (oneOf ["*", "**"])
    let _ ← expectName
    if star.isNone then
      if ← accept (.sign "=") then
        let _ ← expression fuel tried depth
    if ← accept (.sign ",") then parameters fuel tried depth else expect (.sign ":")

def binary : (fuel : Nat) → (tried : Bool) → (depth : Nat) → Level → Reading Value
  | 0, _, _, _ => absent
  | fuel + 1, tried, depth, level => do
    match level with
    | .inversion =>
      if ← accept (.name "not") then
        let _ ← binary fuel tried depth .inversion
        return .other "expression" false
      else binary fuel tried depth .comparison
    | .disjunction => chain fuel tried depth level (← binary fuel tried depth .conjunction)
    | .conjunction => chain fuel tried depth level (← binary fuel tried depth .inversion)
    | .comparison => chain fuel tried depth level (← binary fuel tried depth .arithmetic)
    | .arithmetic => chain fuel tried depth level (← unary fuel tried depth)

/-- An expression whose first operands have been read. -/
def chain : (fuel : Nat) → (tried : Bool) → (depth : Nat) → Level → Value → Reading Value
  | 0, _, _, _, _ => absent
  | fuel + 1, tried, depth, level, left => do
    let next ← attempt do
      let operator ← operator level
      let right ← match level with
        | .disjunction => binary fuel tried depth .conjunction
        | .conjunction | .inversion => binary fuel tried depth .inversion
        | .comparison => binary fuel tried depth .arithmetic
        | .arithmetic => unary fuel tried depth
      return combine level operator left right
    match next with
    | some value => chain fuel tried depth level value
    | none => return left

def unary : (fuel : Nat) → (tried : Bool) → (depth : Nat) → Reading Value
  | 0, _, _ => absent
  | fuel + 1, tried, depth => do
    match ← attempt (oneOf ["+", "-", "~"]) with
    | some sign =>
      let value ← unary fuel tried depth
      let form := if sign = "~" then .noLiteral else value.form.signed
      return ⟨"expression", form, none, true, some "expression"⟩
    | none =>
      if ← accept (.name "await") then
        let _ ← primary fuel tried depth (← atom fuel tried depth)
        return .other "await expression" true
      else primary fuel tried depth (← atom fuel tried depth)

/-- An expression with the parts of it that follow after points and in parentheses. -/
def primary : (fuel : Nat) → (tried : Bool) → (depth : Nat) → Value → Reading Value
  | 0, _, _, _ => absent
  | fuel + 1, tried, depth, value => do
    let part ← attempt do
      expect (.sign ".")
      expectName
    if part.isSome then primary fuel tried depth .part
    else
      if !tried && (← nextIs (.sign "\x7b")) then
        let _ ← ahead do
          skip
          generatorFlaw fuel (depth + 1)
      let called ← attempt do
        expect (.sign "(")
        let isEmpty ← nextIs (.sign ")")
        arguments fuel tried (depth + 1) .positional true
        return isEmpty
      match called with
      | some isEmpty =>
        let form := if value.name = some "set" ∧ isEmpty then .unhashable "set" else .noLiteral
        primary fuel tried depth (.constant "function call" form)
      | none => return value

/-- Arguments up to the closing parenthesis, given what the last argument was. -/
def arguments : (fuel : Nat) → (tried : Bool) → (depth : Nat) → (last : Argument) →
    (isFirst : Bool) → Reading Unit
  | 0, _, _, _, _ => absent
  | fuel + 1, tried, depth, last, isFirst => do
    if ← accept (.sign ")") then return
    let rest (last : Argument) : Reading Unit := do
      if ← accept (.sign ",") then arguments fuel tried depth last false else expect (.sign ")")
    if ← accept (.sign "*") then
      if last = .unpacking then
        if tried then absent
        let _ ← attempt (expression fuel tried depth)
        wrong "iterable argument unpacking follows keyword argument unpacking"
      if (← attempt (expression fuel tried depth)).isNone then wrong "Invalid star expression"
      rest last
    else if ← accept (.sign "**") then
      let _ ← expression fuel tried depth
      rest .unpacking
    else
      match ← get with
      | .name text :: .sign "=" :: after =>
        if constants.contains text && !tried then wrong s!"cannot assign to {text}"
        if keywords.contains text then absent
        set after
        let _ ← expression fuel tried depth
        if !tried && (← ahead (clauses fuel tried depth)).isSome then
          wrong "invalid syntax. Maybe you meant '==' or ':=' instead of '='?"
        rest (if last = .unpacking then .unpacking else .keyword)
      | _ =>
        let _ ← member fuel tried depth
        if !tried && (← nextIs (.sign "=")) then
          wrong "expression cannot contain assignment, perhaps you meant \"==\"?"
        if (← attempt (clauses fuel tried depth)).isSome then
          if !isFirst || (← nextIs (.sign ",")) then
            if tried then absent else wrong "Generator expression must be parenthesized"
          expect (.sign ")")
        else
          if last ≠ .positional then
            if tried then absent
            let _ ← attempt (rest .positional)
            let what := if last = .unpacking then " unpacking" else ""
            wrong s!"positional argument follows keyword argument{what}"
          rest last

def atom : (fuel : Nat) → (tried : Bool) → (depth : Nat) → Reading Value
  | 0, _, _ => absent
  | fuel + 1, tried, depth => do
    match ← peek with
    | .name text =>
      if keywords.contains text && !constants.contains text then absent
      skip
      return if constants.contains text then .constant text .hashable else .ofName text
    | .number imaginary =>
      skip
      return .constant "literal" (.number imaginary false)
    | .text .. => texts
    | .sign "..." =>
      skip
      return .constant "ellipsis" .hashable
    | .sign "(" =>
      skip
      group fuel tried (depth + 1)
    | .sign "\x7b" =>
      skip
      braces fuel tried (depth + 1)
    | _ => absent

/-- An expression that may be given a name. -/
def member : (fuel : Nat) → (tried : Bool) → (depth : Nat) → Reading Value
  | 0, _, _ => absent
  | fuel + 1, tried, depth => do
    match ← get with
    | .name text :: .sign ":=" :: rest =>
      if keywords.contains text then expression fuel tried depth
      else
        set rest
        let _ ← expression fuel tried depth
        return .other "named expression" false
    | _ => expression fuel tried depth

/-- A member of a tuple or a set, which cannot be assigned to. -/
def item : (fuel : Nat) → (tried : Bool) → (depth : Nat) → Reading Value
  | 0, _, _ => absent
  | fuel + 1, tried, depth => do
    let value ← member fuel tried depth
    if tried then return value
    if ← accept (.sign ":=") then
      let _ ← expression fuel tried depth
      wrong s!"cannot use assignment expressions with {value.noun}"
    else if ← accept (.sign "=") then
      let unassignable := ["tuple", "generator expression", "True", "False", "None"]
      if !value.isOperand || unassignable.contains value.noun then absent
      let _ ← binary fuel tried depth .arithmetic
      if (← nextIs (.sign "=")) || (← nextIs (.sign ":=")) then absent
      else if value.name.isSome then
        wrong "invalid syntax. Maybe you meant '==' or ':=' instead of '='?"
      else wrong s!"cannot assign to {value.noun} here. Maybe you meant '==' instead of '='?"
    else return value

/-- An expression after a star. -/
def starred : (fuel : Nat) → (tried : Bool) → (depth : Nat) → Reading Value
  | 0, _, _ => absent
  | fuel + 1, tried, depth => do
    match ← attempt (expression fuel tried depth) with
    | some value => return value.starred
    | none => if tried then absent else wrong "Invalid star expression"

/-- What is written for each of many things: the loops and conditions after an expression. -/
def clauses : (fuel : Nat) → (tried : Bool) → (depth : Nat) → Reading Unit
  | 0, _, _ => absent
  | fuel + 1, tried, depth => do
    let _ ← accept (.name "async")
    expect (.name "for")
    let found ← attempt do
      targets fuel tried depth
      expect (.name "in")
    if found.isNone then
      if tried then absent
      match (← expressions fuel tried depth).obstacle with
      | some noun => wrong s!"cannot assign to {noun}"
      | none => absent
    let _ ← binary fuel tried depth .disjunction
    conditions fuel tried depth
    if (← nextIs (.name "for")) || (← nextIs (.name "async")) then clauses fuel tried depth

/-- What a loop gives values to. -/
def targets : (fuel : Nat) → (tried : Bool) → (depth : Nat) → Reading Unit
  | 0, _, _ => absent
  | fuel + 1, tried, depth => do
    let _ ← accept (.sign "*")
    let value ← binary fuel tried depth .arithmetic
    if !value.isTarget then absent
    if ← accept (.sign ",") then
      if !(← nextIs (.name "in")) then targets fuel tried depth

def conditions : (fuel : Nat) → (tried : Bool) → (depth : Nat) → Reading Unit
  | 0, _, _ => absent
  | fuel + 1, tried, depth => do
    if ← accept (.name "if") then
      let _ ← binary fuel tried depth .disjunction
      conditions fuel tried depth

/-- Looks for what may be wrong with many members inside of braces. -/
def generatorFlaw : (fuel : Nat) → (depth : Nat) → Reading Unit
  | 0, _ => absent
  | fuel + 1, depth => do
    if ← accept (.sign "*") then
      let _ ← starred fuel false depth
      clauses fuel false depth
      wrong "iterable unpacking cannot be used in comprehension"
    else
      let _ ← item fuel false depth
      expect (.sign ",")
      let _ ← attempt (moreItems fuel depth)
      clauses fuel false depth
      wrong "did you forget parentheses around the comprehension target?"

/-- Members of a set after its first one. -/
def moreItems : (fuel : Nat) → (depth : Nat) → Reading Unit
  | 0, _ => absent
  | fuel + 1, depth => do
    if ← accept (.sign "*") then
      let _ ← binary fuel false depth .arithmetic
    else
      let _ ← item fuel false depth
    if ← accept (.sign ",") then
      let _ ← attempt (moreItems fuel depth)

/-- More members up to a closing bracket, given those that have been read. -/
def members : (fuel : Nat) → (tried : Bool) → (depth : Nat) → (closing : String) → List Value →
    Reading (List Value)
  | 0, _, _, _, _ => absent
  | fuel + 1, tried, depth, closing, found => do
    if ← accept (.sign closing) then return found
    expect (.sign ",")
    if ← accept (.sign closing) then return found
    let value ← if ← accept (.sign "*") then do
      pure (← binary fuel tried depth .arithmetic).starred
      else item fuel tried depth
    members fuel tried depth closing (found ++ [value])

/-- What follows an opening parenthesis. -/
def group : (fuel : Nat) → (tried : Bool) → (depth : Nat) → Reading Value
  | 0, _, _ => absent
  | fuel + 1, tried, depth => do
    if ← accept (.sign ")") then return .tuple []
    if ← accept (.name "yield") then
      if ← accept (.name "from") then
        let _ ← expression fuel tried depth
      else if !(← nextIs (.sign ")")) then
        let _ ← expressions fuel tried depth
      expect (.sign ")")
      return .other "yield expression" true
    if ← accept (.sign "**") then
      let _ ← expression fuel tried depth
      if !tried && (← nextIs (.sign ")")) then wrong "cannot use double starred expression here"
      absent
    let isStarred ← accept (.sign "*")
    let first ← if isStarred then starred fuel tried depth else item fuel tried depth
    if (← attempt (clauses fuel tried depth)).isSome then
      if isStarred then
        if tried then absent else wrong "iterable unpacking cannot be used in comprehension"
      expect (.sign ")")
      return .other "generator expression" true
    if ← nextIs (.sign ")") then
      if isStarred then
        if tried then absent else wrong "cannot use starred expression here"
      skip
      return first.grouped
    if isStarred && !first.isOperand then absent
    return .tuple (← members fuel tried depth ")" [first])

/-- The value after a key and its colon. -/
def entryValue : (fuel : Nat) → (tried : Bool) → (depth : Nat) → Reading Value
  | 0, _, _ => absent
  | fuel + 1, tried, depth => do
    if ← accept (.sign "*") then
      let _ ← binary fuel tried depth .arithmetic
      wrong "cannot use a starred expression in a dictionary value"
    else if (← nextIs (.sign "\x7d")) || (← nextIs (.sign ",")) then
      wrong "expression expected after dictionary key and ':'"
    else expression fuel tried depth

/-- More entries of a table up to the closing brace, given the forms of those that have been
read. -/
def entries : (fuel : Nat) → (tried : Bool) → (depth : Nat) → List (Form × Form) →
    Reading (List (Form × Form))
  | 0, _, _, _ => absent
  | fuel + 1, tried, depth, found => do
    if ← accept (.sign "\x7d") then return found
    expect (.sign ",")
    if ← accept (.sign "\x7d") then return found
    if ← accept (.sign "**") then
      let _ ← binary fuel tried depth .arithmetic
      entries fuel tried depth (found ++ [(.unpacked, .hashable)])
    else
      let key ← expression fuel tried depth
      if !(← accept (.sign ":")) then wrong "':' expected after dictionary key"
      let value ← entryValue fuel tried depth
      entries fuel tried depth (found ++ [(key.form, value.form)])

/-- What follows an opening brace. -/
def braces : (fuel : Nat) → (tried : Bool) → (depth : Nat) → Reading Value
  | 0, _, _ => absent
  | fuel + 1, tried, depth => do
    let table (first : List (Form × Form)) : Reading Value := do
      let forms ← entries fuel tried depth first
      return .constant "dict literal" (.ofTable forms)
    if ← accept (.sign "\x7d") then return .constant "dict literal" (.ofTable [])
    if ← accept (.sign "**") then
      let _ ← binary fuel tried depth .arithmetic
      if !tried && (← ahead (clauses fuel tried depth)).isSome then
        wrong "dict unpacking cannot be used in dict comprehension"
      table [(.unpacked, .hashable)]
    else
      let start ← get
      let isStarred ← accept (.sign "*")
      let first ← if isStarred then starred fuel tried depth else item fuel tried depth
      if !isStarred && (← accept (.sign ":")) then
        let value ← entryValue fuel tried depth
        if (← attempt (clauses fuel tried depth)).isSome then
          expect (.sign "\x7d")
          return .other "dict comprehension" true
        table [(first.form, value.form)]
      else if !isStarred && (← attempt (clauses fuel tried depth)).isSome then
        expect (.sign "\x7d")
        return .other "set comprehension" true
      else
        let found ← attempt do
          if isStarred && !first.isOperand then absent
          members fuel tried depth "\x7d" [first]
        match found with
        | some members => return .constant "set display" (.ofSet (members.map (·.form)))
        | none =>
          if !tried then
            set start
            generatorFlaw fuel depth
          absent

end

/-- Expressions up to the end, with commas between them. -/
def everything : (fuel : Nat) → (tried : Bool) → List Value → Reading (List Value)
  | 0, _, _ => absent
  | fuel + 1, tried, found => do
    let value ← expression fuel tried 0
    let found := found ++ [value]
    if ← accept (.sign ",") then return (← attempt (everything fuel tried found)).getD found
    else return found

/-- The units of fuel for some tokens: more than a token can use up, for each of them. -/
def fuelFor (tokens : List Token) : Nat := 16 * (tokens.length + 1)

def document (fuel : Nat) (tried : Bool) : Reading Form := do
  let found ← everything fuel tried []
  modify (·.dropWhile (· = .newline))
  expect .finish
  return (Value.tuple found).form

/-- The form of the expression that some tokens are. If they are none, they are read again to find
out why. -/
def formOf (tokens : List Token) : Except String Form :=
  let reading : Reading Form := do
    match ← attempt (document (fuelFor tokens) true) with
    | some form => return form
    | none => document (fuelFor tokens) false
  match reading.run tokens with
  | .ok (form, _) => .ok form
  | .error .absent => .error "invalid syntax"
  | .error (.wrong reason) => .error reason

end ClipCadence.Console.Action
