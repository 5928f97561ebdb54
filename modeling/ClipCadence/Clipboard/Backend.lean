import ClipCadence.Log
import ClipCadence.Text.Glyph

/-!
Clipboard tools and how one is chosen. `Backend.known` lists the tools in the order in which they
are tried: the one for Wayland first, then those for X11, then those that a platform brings along.
`detect` takes the first that fits the platform and can be used in this session.

Main statement: `detect_eq_ok_iff` says which tool that is.
-/

namespace ClipCadence

open Text

/-- A command line: the program and its arguments. -/
abbrev Argv := List RawText

/-- What the choice of a tool depends on. -/
structure Machine where
  platform : String
  /-- The name of the Wayland display, if one is set. -/
  wayland : Option String
  installed : List RawText

namespace Machine

def has (machine : Machine) (program : RawText) : Bool := machine.installed.contains program

def onWayland (machine : Machine) : Bool := machine.wayland.any (· ≠ "")

end Machine

structure Backend where
  name : String
  arguments : List String
  platforms : List String
  needsWayland : Bool
  deriving DecidableEq, Repr

namespace Backend

/-- Each tool is named like its program. -/
def program (backend : Backend) : String := backend.name

def command (backend : Backend) : List String := backend.program :: backend.arguments

def argv (backend : Backend) : Argv := backend.command.map RawText.ofString

def known : List Backend := [
  ⟨"wl-copy", [], ["linux", "freebsd"], true⟩,
  ⟨"xclip", ["-selection", "clipboard"], ["linux", "freebsd"], false⟩,
  ⟨"xsel", ["--clipboard", "--input"], ["linux", "freebsd"], false⟩,
  ⟨"pbcopy", [], ["darwin"], false⟩,
  ⟨"clip", [], ["win32"], false⟩]

def fits (backend : Backend) (machine : Machine) : Bool :=
  backend.platforms.any fun platform => platform.toList.isPrefixOf machine.platform.toList

def isInstalled (backend : Backend) (machine : Machine) : Bool :=
  machine.has (RawText.ofString backend.program)

/-- Whether a tool can be used in this session, whatever the platform. -/
def isAvailable (backend : Backend) (machine : Machine) : Bool :=
  (!backend.needsWayland || machine.onWayland) && backend.isInstalled machine

def isUsable (backend : Backend) (machine : Machine) : Bool :=
  backend.fits machine && backend.isAvailable machine

def listing (backends : List Backend) : String :=
  String.intercalate ", " (backends.map name)

end Backend

/-- Why no command can be found for a clipboard. -/
inductive NotFound where
  | unknown (name : RawText)
  | platform (name : String)
  | noTool (candidates : List Backend)
  | command (program : RawText)
  | notInstalled (backend : Backend)
  deriving DecidableEq, Repr

/-- The name from outside that the message of an error holds, if it holds any. -/
def NotFound.named : NotFound → RawText
  | .unknown name | .command name => name
  | .platform _ | .noTool _ | .notInstalled _ => []

def NotFound.message : NotFound → String
  | .unknown name =>
    "Unknown clipboard backend '" ++ name.display ++ "' (known: " ++
      Backend.listing Backend.known ++ ")"
  | .platform name => "Unsupported platform: " ++ name
  | .noTool candidates =>
    "No clipboard tool found. Install one of: " ++ Backend.listing candidates ++ "."
  | .command program => "Clipboard command not found: " ++ program.display
  | .notInstalled backend => "Clipboard tool '" ++ backend.program ++ "' is not installed."

namespace Backend

def ofName (name : RawText) : Except NotFound Backend :=
  match known.find? fun backend => RawText.ofString backend.name = name with
  | some backend => .ok backend
  | none => .error (.unknown name)

def candidates (machine : Machine) : List Backend := known.filter (·.fits machine)

def detect (machine : Machine) : Except NotFound Backend :=
  if (candidates machine).isEmpty then .error (.platform machine.platform)
  else
    match (candidates machine).find? (·.isAvailable machine) with
    | some backend => .ok backend
    | none => .error (.noTool (candidates machine))

/-- What is logged when a tool has been detected. -/
def detection (backend : Backend) : Log.Record :=
  ⟨.debug, "Detected clipboard backend " ++ backend.name⟩

theorem find?_candidates (machine : Machine) :
    (candidates machine).find? (·.isAvailable machine) = known.find? (·.isUsable machine) := by
  simp [candidates, List.find?_filter, isUsable]

theorem detect_eq_ok_iff {machine : Machine} {backend : Backend} :
    detect machine = .ok backend ↔ known.find? (·.isUsable machine) = some backend := by
  rw [← find?_candidates, detect]
  cases h : candidates machine with
  | nil => simp
  | cons first rest =>
    cases hf : (first :: rest).find? (·.isAvailable machine) <;> simp

end Backend

end ClipCadence
