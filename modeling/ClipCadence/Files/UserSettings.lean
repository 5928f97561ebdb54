import ClipCadence.Files.Path
import ClipCadence.Text.Blank

/-!
Where the settings of a user are kept: in the directory that `XDG_CONFIG_HOME` names, if it is an
absolute path, else in `.config` of the home directory.
-/

namespace ClipCadence.Files.UserSettings

open Text

/-- Environment variables. -/
abbrev Environment := List (String × String)

def value? (environment : Environment) (name : String) : Option String :=
  (environment.find? fun entry => entry.1 = name).map (·.2)

/-- The home directory of a session without `HOME`. -/
def defaultHome : String := "/root"

def trimSlashes (text : String) : String :=
  String.ofList (text.toList.reverse.dropWhile (· = '/')).reverse

def homeConfig (environment : Environment) : String :=
  trimSlashes ((value? environment "HOME").getD defaultHome) ++ "/.config"

def configHome (environment : Environment) : String :=
  match value? environment "XDG_CONFIG_HOME" with
  | some directory =>
    if (Path.ofString directory).isAbsolute then directory else homeConfig environment
  | none => homeConfig environment

def path (environment : Environment) : Path :=
  (Path.ofString (configHome environment)).child ["clip_emitter", "config.json"]

end ClipCadence.Files.UserSettings
