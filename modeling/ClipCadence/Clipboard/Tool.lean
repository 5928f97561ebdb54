import ClipCadence.Clipboard.Backend
import ClipCadence.Number.Decimal
import ClipCadence.Number.Numeral
import ClipCadence.Text.Blank
import ClipCadence.Text.Quoted
import ClipCadence.Text.Utf8

/-!
Writing to the clipboard through a tool. The command is chosen once, before the first write; every
write starts it anew and hands it the text on its standard input. What the tool writes to its
standard error is shown if it fails.
-/

namespace ClipCadence

open Number Text

/-- A tool that has been found, and how long one write may take. -/
structure Tool where
  name : RawText
  command : Argv
  timeout : Binary64
  deriving DecidableEq

/-- One start of a tool. -/
structure ToolCall where
  command : Argv
  input : String
  timeout : Binary64
  deriving DecidableEq

/-- How a start of a tool ended without success. -/
inductive ToolFailure where
  | exited (status : Int) (diagnostics : List UInt8)
  | timedOut
  /-- The tool could not be started, for a reason that the system names. -/
  | notStarted (reason : String)
  deriving DecidableEq, Repr

/-- Why a write did not succeed. -/
inductive CopyError where
  | simulated (write : Nat)
  | tool (name : RawText) (timeout : Binary64) (failure : ToolFailure)
  deriving DecidableEq, Repr

namespace ToolFailure

/-- The reason in an error of the operating system. -/
def systemReason (number : Int) (text : String) (file : Option String) : String :=
  let reason := "[Errno " ++ String.ofList (Numeral.write number) ++ "] " ++ text
  match file with
  | none => reason
  | some file => reason ++ ": " ++ quoted file

/-- What a tool wrote to its standard error, as far as it can be read. -/
def diagnosis (diagnostics : List UInt8) : List Char := trim (Utf8.decodeLossy diagnostics)

def message (name : RawText) (timeout : Binary64) : ToolFailure → String
  | .exited status diagnostics =>
    let detail := diagnosis diagnostics
    name.display ++ " exited with status " ++ String.ofList (Numeral.write status) ++
      (if detail.isEmpty then "" else ": " ++ String.ofList detail)
  | .timedOut => name.display ++ " timed out after " ++ timeout.plain ++ "s"
  | .notStarted reason => "Could not run " ++ name.display ++ ": " ++ reason

end ToolFailure

/-- The name from outside that the message of an error holds, if it holds any. -/
def CopyError.named : CopyError → RawText
  | .simulated _ => []
  | .tool name _ _ => name

def CopyError.message : CopyError → String
  | .simulated write => "simulated failure on write " ++ toString write
  | .tool name timeout failure => failure.message name timeout

namespace Tool

def call (tool : Tool) (text : String) : ToolCall := ⟨tool.command, text, tool.timeout⟩

def error (tool : Tool) (failure : ToolFailure) : CopyError :=
  .tool tool.name tool.timeout failure

/-- The tool for a clipboard, with what is logged about the choice: a custom command, if there is
one; else the tool of that name; else the one that is detected. -/
def resolve (backend : Option RawText) (command : Option Argv) (timeout : Binary64)
    (machine : Machine) : Except NotFound (Tool × List Log.Record) :=
  match command with
  | some (program :: arguments) =>
    if machine.has program then .ok (⟨program, program :: arguments, timeout⟩, [])
    else .error (.command program)
  | _ =>
    match backend with
    | some (first :: rest) => do
      let found ← Backend.ofName (first :: rest)
      if found.isInstalled machine then
        .ok (⟨.ofString found.name, found.argv, timeout⟩, [])
      else .error (.notInstalled found)
    | _ => do
      let found ← Backend.detect machine
      .ok (⟨.ofString found.name, found.argv, timeout⟩, [found.detection])

end Tool

end ClipCadence
