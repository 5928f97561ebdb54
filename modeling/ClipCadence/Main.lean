import ClipCadence.Command.Execute

/-!
The program: its command line is rehearsed on a simulated clock that starts at midnight, so a run
takes no time. No tool is ever started, and none counts as installed. The files that a command
line can name are read before, those that it has changed are written after.
-/

open ClipCadence Command

def variableNames : List String := [
  "HOME", "XDG_CONFIG_HOME", "WAYLAND_DISPLAY", "CLIP_EMITTER_COUNT", "CLIP_EMITTER_DELAY",
  "CLIP_EMITTER_LABEL", "CLIP_EMITTER_BACKEND"]

def readEnvironment : IO Files.UserSettings.Environment :=
  variableNames.filterMapM fun name => do
    return (← IO.getEnv name).map fun value => (name, value)

def readFile? (name : String) : IO (Option (List UInt8)) := do
  try
    return some (← IO.FS.readBinFile name).toList
  catch _ =>
    return none

/-- The tree with the files of the given names, as far as they exist. -/
def readTree (cwd : Files.Place) (names : List String) : IO Files.Tree := do
  let mut tree := Files.Tree.empty cwd
  for name in names do
    if let some content ← readFile? name then
      let path := Files.Path.ofString name
      let grown := do
        let tree ← tree.makeDirectories path.parent
        tree.write path name content
      if let .ok next := grown then tree := next
  return tree

/-- Writes the files of a tree that another tree does not have. -/
def writeChanges (before after : Files.Tree) : IO Unit :=
  for (place, entry) in after.entries do
    if before.entry? place ≠ some entry then
      let path : Files.Path := ⟨"/", place⟩
      match entry with
      | .directory => IO.FS.createDirAll path.text
      | .file content => IO.FS.writeBinFile path.text ⟨content.toArray⟩

def main (arguments : List String) : IO UInt32 := do
  let environment ← readEnvironment
  let cwd := (Files.Path.ofString (← IO.currentDir).toString).parts
  let user := Files.UserSettings.path environment
  let tree ← readTree cwd (user.text :: arguments)
  let input ← if arguments.contains "init" then (← IO.getStdin).readToEnd else pure ""
  let desk : Desk := {
    tree := tree
    store := Settings.Store.empty
    user := user
    machine := ⟨"linux", Files.UserSettings.value? environment "WAYLAND_DISPLAY", []⟩
    width := 80
    input := Text.normalEnds input.toList
    printed := []
    log := Log.Setup.fresh
    world := ⟨default, 0, .memory (.empty []), [], [], none, false, [], [], []⟩
    failOn := [] }
  let (ending, done) := perform environment arguments desk
  IO.print (String.ofList done.printed)
  writeChanges tree done.tree
  return ending.code.toUInt32
