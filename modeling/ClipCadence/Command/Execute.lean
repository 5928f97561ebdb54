import ClipCadence.Command.Desk
import ClipCadence.Command.Grammar

/-!
What the commands do. A command that is refused explains itself and exits with 1, a run that was
told to stop exits with 130, a command line that cannot be read with 2.
-/

namespace ClipCadence.Command

open Console Files Text

/-! ### Runs -/

/-- The clipboard of a session, ready for a run on a desk. -/
def Desk.prepare (desk : Desk) (clipboard : Clipboard) : World :=
  { desk.world with
    clipboard := match clipboard with
      | .memory _ => .memory (.empty desk.failOn)
      | .tool tool => .tool tool }

/-- Rehearses a run and prints its progress. -/
def rehearse (clipboard : Clipboard) (settings : Settings) (summary : Bool) : Act Report := do
  let desk ← get
  let (result, world) :=
    (desk.prepare clipboard).rehearse (.printed (progress desk.width summary)) settings
  set { desk with world := { world with printed := [] } }
  printLines world.printed
  match result with
  | .ok report => return report
  | .error crash => raise (.run crash)

def chooseClipboard (settings : Settings) (dryRun : Bool) : Act Clipboard := do
  match (Session.start settings dryRun).access (← get).machine with
  | .ok (clipboard, _) => return clipboard
  | .error error => refuse error.message error.named

/-- The exit status of a run that was told to stop. -/
def interruptedStatus : Nat := 130

def runEvents (options : RunOptions) : Act Unit := do
  modify fun desk => { desk with log := desk.log.apply options.verbose }
  let path := options.settings.map Path.ofString
  match ← loading fun tree user => Settings.resolve tree user path options.overrides with
  | .error error => refuse error.message
  | .ok settings =>
    let clipboard ← chooseClipboard settings options.dryRun
    let report ← rehearse clipboard settings options.summary
    if report.cancelled then exitWith interruptedStatus

/-! ### Listings -/

def listBackends : Act Unit := do
  let machine := (← get).machine
  print fun _ =>
    (Messages.backendsTable (Backend.known.map (Messages.BackendRow.ofBackend machine))).map
      (·.lines)

def showSettings (file : Option String) : Act Unit := do
  let found ← loading fun tree user =>
    match file with
    | some file => Settings.load tree (.file (.ofString file))
    | none => Settings.loadActive tree user
  match found with
  | .error error => refuse error.message
  | .ok settings =>
    match settings.document? with
    | .error error => raise (.text error)
    | .ok document =>
      print fun width => Messages.documentPanel width document Messages.documentTitle

def settingsPath : Act Unit := do
  let path := (← get).user.text.toList
  printLines ((Styled.plain path).lines.map fun line => (line.expandTabs 8).chars)

/-! ### New settings files -/

def presentTemplate (path : List Char) : List Char :=
  "[bold yellow]⚠️  File already exists:[/] ".toList ++ path

def writtenTemplate (path : List Char) : List Char :=
  "✅ Configuration written to: [bold green]".toList ++ path ++
    "[/]\n\nEdit it and pass it with [bold]--config[/]:\n  clip-emitter run --config \"".toList ++
    path ++ ['"']

/-- Where the settings are written: into a directory under the name of the built-in file. -/
def target (tree : Tree) (path : Path) : Path × String :=
  let name := "emitter_default.json"
  if tree.isDirectory path then
    let shown := path.text
    let separator := if shown.toList.getLast? = some '/' then "" else "/"
    (path.child [name], shown ++ separator ++ name)
  else (path, path.text)

def initSettings (file : Option String) (force : Bool) : Act Unit := do
  let desk ← get
  let path := (file.map Path.ofString).getD desk.user
  let shown := path.text.toList
  let isPresent ← orRaise (desk.tree.isPresent path)
  if isPresent && !force then
    printMarkup (presentTemplate shown)
    let overwrite ← ask "Overwrite it?".toList
    unless overwrite do exitWith 1
  onFiles (·.makeDirectories path.parent)
  onFiles fun tree =>
    let (path, shown) := target tree path
    tree.write path shown Settings.defaultFile
  print fun width => Messages.successPanel width (writtenTemplate shown) "⚙️  Config Init".toList

/-! ### Checking a settings file -/

/-- What a check says about settings; the name of the backend is not escaped in it. -/
def validText (settings : Settings) : RawText :=
  let backend := settings.backend.getD []
  .ofChars ("✅ Configuration is valid\n\n  Count: [cyan]".toList ++
      Messages.number settings.count ++ "[/]\n  Delay: [cyan]".toList ++
      settings.delay.brief.toList ++ "s[/]\n  Backend: [cyan]".toList) ++
    (if backend = [] then .ofString "auto" else backend) ++ .ofString "[/]"

def validTemplate (settings : Settings) : List Char := (validText settings).map Glyph.shown

def validTitle : List Char := "✅ Validation".toList

def validPanel (width : Nat) (settings : Settings) : Printed := do
  let lines ← Messages.successPanel width (validTemplate settings) validTitle
  if Panel.inner width ≠ 0 && Markup.showsHalf (validText settings) then .error .unencodable
  else return lines

def validateSettings (file : String) : Act Unit := do
  let path := Path.ofString file
  if ← orRaise ((← get).tree.isPresent path) then
    match ← loading fun tree _ => Settings.load tree (.file path) with
    | .error error =>
      printMarkup "[bold red]❌ Validation error:[/]\n".toList
      print fun width => printedText width (.plain error.message.toList)
      exitWith 1
    | .ok settings =>
      print fun width => validPanel width settings
  else refuse ("File not found: " ++ path.text)

/-! ### All commands -/

def execute : Request → Act Unit
  | .run options => runEvents options
  | .backends => listBackends
  | .showSettings file => showSettings file
  | .initSettings file force => initSettings file force
  | .validateSettings file => validateSettings file
  | .settingsPath => settingsPath

/-- How a command line ended. -/
inductive Ending where
  | usage (error : UsageError)
  | status (code : Nat)
  | fault (fault : Fault)

def usageStatus : Nat := 2

def Ending.code : Ending → Nat
  | .usage _ => usageStatus
  | .status code => code
  | .fault _ => 1

/-- Reads a command line and does what it says. -/
def perform (environment : UserSettings.Environment) (arguments : List String) (desk : Desk) :
    Ending × Desk :=
  match read desk.readers environment arguments with
  | .error error => (.usage error, desk)
  | .ok request =>
    let (result, desk) := (execute request).run desk
    match result with
    | .ok () => (.status 0, desk)
    | .error (.exit code) => (.status code, desk)
    | .error (.fault fault) => (.fault fault, desk)

end ClipCadence.Command
