import ClipCadence.Files.Tree
import ClipCadence.Json.Reader
import ClipCadence.Log
import ClipCadence.Settings.Document
import ClipCadence.Settings.Validate
import ClipCadence.Text.LineEnd

/-!
Loading settings from files. A store keeps what has been loaded from each place, so that a file is
read once until the store is cleared. Loading that fails stores nothing.

Settings come from a source: a file, or the document that is built in. The active settings are
those of the user's file, if there is one, with the overrides of a session on top; an override is
never stored.
-/

namespace ClipCadence.Settings

open Files Text Validation

/-! ### Sources -/

inductive Source where
  | builtin
  | file (path : Path)
  deriving DecidableEq, Repr

namespace Source

def builtinName : String := "<default>"

def shown : Source → String
  | .builtin => builtinName
  | .file path => path.text

/-- What a source is stored under: the place of its path. -/
inductive Key where
  | builtin
  | place (place : Place)
  deriving DecidableEq, Repr

def key (tree : Tree) : Source → Except FileError Key
  | .builtin => .ok .builtin
  | .file path =>
    if path.hasNul then .error ⟨.nul, path.text⟩ else .ok (.place (path.place tree.cwd))

def isPresent (tree : Tree) : Source → Except FileError Bool
  | .builtin => .ok true
  | .file path => tree.isPresent path

def read (tree : Tree) : Source → Except FileError (List UInt8)
  | .builtin => .ok defaultFile
  | .file path => tree.read path path.text

end Source

/-! ### Errors -/

inductive LoadError where
  | notFound (source : Source)
  | malformed (source : Source) (document : List Char) (fault : Json.Fault) (position : Nat)
  | refused (source : Source) (refusal : Refusal)
  | overrides (refusal : Refusal)
  | unreadable (error : FileError)
  | encoding (error : Utf8.DecodeError)
  | tooDeep (container : Json.Container)
  | tooManyDigits (digits : Nat)

namespace LoadError

/-- Whether an error is one of the configuration, which a user can mend; the others are faults of
the file as such. -/
def isConfiguration : LoadError → Bool
  | .notFound _ | .malformed .. | .refused .. | .overrides _ => true
  | .unreadable _ | .encoding _ | .tooDeep _ | .tooManyDigits _ => false

def encodingMessage (error : Utf8.DecodeError) : String :=
  let reason := error.damage.reason
  match error.bytes with
  | [byte] =>
    "'utf-8' codec can't decode byte 0x" ++ String.ofList (hex 2 byte.toNat) ++
      s!" in position {error.position}: {reason}"
  | bytes =>
    s!"'utf-8' codec can't decode bytes in position {error.position}" ++
      s!"-{error.position + (bytes.length - 1)}: {reason}"

def message : LoadError → String
  | .notFound source => "Config file not found: " ++ source.shown
  | .malformed source document fault position =>
    "Invalid JSON in " ++ source.shown ++ ": " ++
      Json.ReadError.message document (.malformed fault position)
  | .refused source refusal =>
    "Invalid configuration in " ++ source.shown ++ ":\n" ++ refusal.message
  | .overrides refusal => "Invalid configuration:\n" ++ refusal.message
  | .unreadable error => error.message
  | .encoding error => encodingMessage error
  | .tooDeep container => Json.ReadError.message [] (.tooDeep container)
  | .tooManyDigits digits => Json.ReadError.message [] (.tooManyDigits digits)

end LoadError

/-! ### Loading without a store -/

/-- The settings of a document in a file. -/
def ofDocument (room : Json.Room) (source : Source) (document : List Char) :
    Except LoadError Settings :=
  match Json.parse document room with
  | .error (.malformed fault position) => .error (.malformed source document fault position)
  | .error (.tooDeep container) => .error (.tooDeep container)
  | .error (.tooManyDigits digits) => .error (.tooManyDigits digits)
  | .ok json => (validate json).mapError (.refused source)

/-- The settings in the bytes of a file. -/
def ofBytes (room : Json.Room) (source : Source) (bytes : List UInt8) :
    Except LoadError Settings := do
  let text ← (Utf8.decode bytes).mapError .encoding
  ofDocument room source (normalEnds text)

/-- The settings of a source as it is now. -/
def readSource (room : Json.Room) (tree : Tree) (source : Source) :
    Except LoadError Settings := do
  if ← (source.isPresent tree).mapError .unreadable then
    let bytes ← (source.read tree).mapError .unreadable
    ofBytes room source bytes
  else .error (.notFound source)

/-! ### The store -/

/-- Settings with the number of the loading or overriding that made them. -/
structure Loaded where
  serial : Nat
  settings : Settings

structure Store where
  cache : List (Source.Key × Loaded)
  /-- How many settings have been made so far. -/
  made : Nat
  logs : List Log.Record
  /-- The room that the reader of documents has. -/
  room : Json.Room

abbrev Loading := ExceptT LoadError (StateM Store)

namespace Store

def fresh (room : Json.Room) : Store := ⟨[], 0, [], room⟩

def empty : Store := fresh .usual

def lookup? (store : Store) (key : Source.Key) : Option Loaded :=
  (store.cache.find? fun entry => entry.1 = key).map (·.2)

def clear (store : Store) : Store := { store with cache := [] }

def loadedRecord (source : Source) : Log.Record :=
  ⟨.debug, "Loaded configuration from " ++ source.shown⟩

/-- The store after settings have been loaded from a source. -/
def keep (store : Store) (key : Source.Key) (source : Source) (settings : Settings) : Store where
  cache := (key, ⟨store.made, settings⟩) :: store.cache
  made := store.made + 1
  logs := store.logs ++ [loadedRecord source]
  room := store.room

end Store

/-- The settings of a source: those that are stored, or those that are read now. -/
def load (tree : Tree) (source : Source) : Loading Loaded := do
  let store ← get
  let key ← (source.key tree).mapError LoadError.unreadable
  match store.lookup? key with
  | some loaded => return loaded
  | none =>
    match readSource store.room tree source with
    | .error error => throw error
    | .ok settings =>
      set (store.keep key source settings)
      return ⟨store.made, settings⟩

/-- The source of the settings of a user. -/
def activeSource (tree : Tree) (user : Path) : Except FileError Source :=
  (tree.isPresent user).map fun isPresent => if isPresent then .file user else .builtin

def loadActive (tree : Tree) (user : Path) : Loading Loaded := do
  load tree (← (activeSource tree user).mapError LoadError.unreadable)

/-- The settings of a path, or the active ones, with overrides on top. -/
def resolve (tree : Tree) (user : Path) (path : Option Path) (overrides : Overrides) :
    Loading Loaded := do
  let base ← match path with
    | some path => load tree (.file path)
    | none => loadActive tree user
  match given overrides with
  | [] => return base
  | _ =>
    match override base.settings overrides with
    | .error refusal => throw (.overrides refusal)
    | .ok settings =>
      let store ← get
      set { store with made := store.made + 1 }
      return ⟨store.made, settings⟩

end ClipCadence.Settings
