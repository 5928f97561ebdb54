/-!
Options of a command line. An option has a long name and may have a letter; letters can be put
together behind one dash, and a value may be attached to its option or be the next argument.
Everything after two lone dashes is an operand, and so is a lone dash.
-/

namespace ClipCadence.Command

/-- Why a command line is refused. -/
inductive UsageError where
  | noCommand
  | unknownCommand (name : String)
  | unknownOption (argument : String)
  | missingValue (argument : String)
  | unexpectedValue (argument : String)
  | badValue (value : String)
  | missingOperand
  | extraOperand (operand : String)
  deriving DecidableEq, Repr

structure OptionForm (α : Type) where
  long : String
  letter : Option Char
  takesValue : Bool
  option : α

/-- An option that has been given, with its value if it takes one. -/
abbrev Given (α : Type) := α × Option String

/-- What one argument says. -/
inductive Reading (α : Type) where
  | operand
  | options (found : List (Given α))
  /-- The next argument is the value of the last option. -/
  | wantsValue (found : List (Given α)) (last : α)

namespace Reading

variable {α : Type}

def after (first : Given α) : Reading α → Reading α
  | .operand => .options [first]
  | .options found => .options (first :: found)
  | .wantsValue found last => .wantsValue (first :: found) last

/-- The letters behind one dash. -/
def ofLetters (forms : List (OptionForm α)) (argument : String) :
    List Char → Except UsageError (Reading α)
  | [] => .ok (.options [])
  | c :: rest =>
    match forms.find? fun form => form.letter = some c with
    | none => .error (.unknownOption argument)
    | some form =>
      if form.takesValue then
        if rest.isEmpty then .ok (.wantsValue [] form.option)
        else .ok (.options [(form.option, some (String.ofList rest))])
      else (ofLetters forms argument rest).map (after (form.option, none))

/-- A long name with the value that may follow an equals sign. -/
def ofLong (form : OptionForm α) (argument : String) (value : Option String) :
    Except UsageError (Reading α) :=
  match value with
  | some value =>
    if form.takesValue then .ok (.options [(form.option, some value)])
    else .error (.unexpectedValue argument)
  | none =>
    if form.takesValue then .ok (.wantsValue [] form.option)
    else .ok (.options [(form.option, none)])

def isOption : List Char → Bool
  | '-' :: _ :: _ => true
  | _ => false

def isLong : List Char → Bool
  | '-' :: '-' :: _ => true
  | _ => false

def ofArgument (forms : List (OptionForm α)) (argument : String) :
    Except UsageError (Reading α) :=
  let chars := argument.toList
  if isOption chars then
    let (name, rest) := chars.span (· ≠ '=')
    match forms.find? fun form => form.long.toList = name with
    | some form => ofLong form argument (rest.tail?.map String.ofList)
    | none =>
      if isLong chars then .error (.unknownOption argument)
      else ofLetters forms argument chars.tail
  else .ok .operand

end Reading

/-- The options on a command line in the order in which they are given, and the operands. -/
def readOptions {α : Type} (forms : List (OptionForm α)) :
    List String → Except UsageError (List (Given α) × List String)
  | [] => .ok ([], [])
  | argument :: rest =>
    if argument = "--" then .ok ([], rest)
    else
      match Reading.ofArgument forms argument with
      | .error error => .error error
      | .ok .operand => do
        let (options, operands) ← readOptions forms rest
        return (options, argument :: operands)
      | .ok (.options found) => do
        let (options, operands) ← readOptions forms rest
        return (found ++ options, operands)
      | .ok (.wantsValue found last) =>
        match rest with
        | [] => .error (.missingValue argument)
        | value :: rest => do
          let (options, operands) ← readOptions forms rest
          return (found ++ (last, some value) :: options, operands)

end ClipCadence.Command
