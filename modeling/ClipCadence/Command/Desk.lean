import ClipCadence.Console.Progress
import ClipCadence.Files.UserSettings
import ClipCadence.Number.Argument
import ClipCadence.Run.Rehearsal
import ClipCadence.Settings.Store

/-!
The desk at which a command works: the files, the settings that have been loaded, the machine with
its clipboard and clock, what is typed in, and what has been printed. An action on a desk may end
the command early, by an exit or by an error that no message explains.
-/

namespace ClipCadence.Command

open Files

structure Desk where
  tree : Tree
  store : Settings.Store
  /-- The settings file of the user. -/
  user : Path
  machine : Machine
  /-- The width of the console. -/
  width : Nat
  /-- The text that is still to be typed in. -/
  input : List Char
  printed : List Char
  log : Log.Setup
  /-- The world in which a run is rehearsed, apart from its clipboard. -/
  world : World
  /-- The writes at which a clipboard in memory fails. -/
  failOn : List Int
  /-- How the numbers on a command line are read. -/
  readers : Number.Argument.Readers := .lax

/-- An error that a command does not turn into a message. -/
inductive Fault where
  | load (error : Settings.LoadError)
  | markup (error : Console.Markup.Error)
  | run (crash : Crash)
  | file (error : FileError)
  | text (error : Unencodable)

inductive Stop where
  | exit (code : Nat)
  | fault (fault : Fault)

abbrev Act := ExceptT Stop (StateM Desk)

def exitWith {α : Type} (code : Nat) : Act α := throw (.exit code)

def raise {α : Type} (fault : Fault) : Act α := throw (.fault fault)

/-- The text of some lines. -/
def textOf (lines : List Console.Line) : List Char := lines.flatMap (· ++ ['\n'])

def write (text : List Char) : Act Unit :=
  modify fun desk => { desk with printed := desk.printed ++ text }

def printLines (lines : List Console.Line) : Act Unit := write (textOf lines)

/-- Prints what the console makes of some markup at the width of the desk. -/
def print (lines : Nat → Console.Printed) : Act Unit := do
  match lines (← get).width with
  | .ok lines => printLines lines
  | .error error => raise (.markup error)

def printMarkup (template : List Char) : Act Unit :=
  print fun width => Console.printed width template

/-- What is printed of an error, whose message may hold a name from outside. -/
def explained (message : String) (named : Text.RawText) (width : Nat) : Console.Printed :=
  Console.encoded width named
    (Console.printed width (Console.Messages.errorTemplate message.toList))

/-- Explains an error and ends the command. -/
def refuse {α : Type} (message : String) (named : Text.RawText := []) : Act α := do
  print (explained message named)
  exitWith 1

def orRaise {α : Type} : Except FileError α → Act α
  | .ok value => return value
  | .error error => raise (.file error)

def onFiles (change : Tree → Except FileError Tree) : Act Unit := do
  let tree ← orRaise (change (← get).tree)
  modify fun desk => { desk with tree := tree }

/-- Loads settings; only an error that the user can mend is left to the caller. -/
def loading (action : Tree → Path → Settings.Loading Settings.Loaded) :
    Act (Except Settings.LoadError Settings) := do
  let desk ← get
  let (result, store) := (action desk.tree desk.user).run desk.store
  set { desk with store := store }
  match result with
  | .ok loaded => return .ok loaded.settings
  | .error error => if error.isConfiguration then return .error error else raise (.load error)

/-! ### Questions -/

def yesWords : List String := ["y", "yes"]

def noWords : List String := ["n", "no"]

/-- The next line that is typed in, without the end of the line. -/
def nextLine? (input : List Char) : Option (List Char × List Char) :=
  if input.isEmpty then none
  else
    let (line, rest) := input.span (· ≠ '\n')
    some (line, rest.tail)

inductive Answer where
  | yes
  | no
  | unclear
  deriving DecidableEq, Repr

/-- What an answer means; an empty one is a no. -/
def Answer.ofLine (line : List Char) : Answer :=
  let word := String.ofList (Text.trim (line.map Char.toLower))
  if yesWords.contains word then .yes
  else if noWords.contains word || word = "" then .no
  else .unclear

/-- Asks until the answer is clear; at the end of the input the command ends. -/
def askFrom (question : List Char) : (lines : Nat) → Act Bool
  | 0 => exitWith 1
  | lines + 1 => do
    write question
    match nextLine? (← get).input with
    | none => exitWith 1
    | some (line, rest) =>
      modify fun desk => { desk with input := rest }
      printLines [line]
      match Answer.ofLine line with
      | .yes => return true
      | .no => return false
      | .unclear =>
        printLines ["Error: invalid input".toList]
        askFrom question lines

def ask (question : List Char) : Act Bool := do
  askFrom (question ++ " [y/N]: ".toList) ((← get).input.length + 1)

end ClipCadence.Command
