import ClipCadence.Clipboard.Memory
import ClipCadence.Settings.Basic

/-!
The clipboard of a session. It is chosen when it is first needed, from the settings and from the
machine as it then is, and stays the same from then on. A choice that fails is tried again at the
next need. A dry run writes to memory, and so does the backend that is named so.
-/

namespace ClipCadence

open Text

inductive Clipboard where
  | memory (memory : Memory)
  | tool (tool : Tool)

namespace Clipboard

def name : Clipboard → RawText
  | .memory _ => .ofString Memory.name
  | .tool found => found.name

end Clipboard

structure Session where
  settings : Settings
  dryRun : Bool
  clipboard : Option Clipboard

namespace Session

def start (settings : Settings) (dryRun : Bool) : Session :=
  ⟨settings, dryRun || settings.backend = some (.ofString Memory.name), none⟩

/-- The clipboard for some settings on a machine. -/
def choose (settings : Settings) (dryRun : Bool) (machine : Machine) :
    Except NotFound (Clipboard × List Log.Record) :=
  if dryRun then .ok (.memory (.empty []), [])
  else
    (Tool.resolve settings.backend settings.command settings.timeout machine).map
      fun (found, logs) => (.tool found, logs)

/-- The clipboard, the session in which it is chosen, and what is logged about the choice. -/
def access (session : Session) (machine : Machine) :
    Except NotFound (Clipboard × Session × List Log.Record) :=
  match session.clipboard with
  | some clipboard => .ok (clipboard, session, [])
  | none =>
    (choose session.settings session.dryRun machine).map fun (clipboard, logs) =>
      (clipboard, { session with clipboard := some clipboard }, logs)

end Session

end ClipCadence
