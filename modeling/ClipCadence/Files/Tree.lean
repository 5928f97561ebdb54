import ClipCadence.Files.Path
import ClipCadence.Text.Quoted

/-!
The tree of files and directories that the program works on, and its working directory. A path is
walked part by part: each part before the last must be a directory that exists, so a path may
lead nowhere although its place exists. A part of more than 255 bytes has no name on the tree, nor
has a path of more than 4095 bytes; a path with a NUL is no path at all.
-/

namespace ClipCadence.Files

open Text

inductive Entry where
  | file (content : List UInt8)
  | directory
  deriving DecidableEq, Repr

structure Tree where
  cwd : Place
  entries : List (Place × Entry)
  deriving DecidableEq, Repr

/-- Why a path cannot be used. -/
inductive Trouble where
  | missing
  | notDirectory
  | isDirectory
  | exists
  | nameTooLong
  /-- There is a NUL in the path. -/
  | nul
  deriving DecidableEq, Repr

structure FileError where
  trouble : Trouble
  path : String
  deriving DecidableEq, Repr

namespace Trouble

/-- The number under which a system knows the trouble. -/
def number? : Trouble → Option Nat
  | .missing => some 2
  | .exists => some 17
  | .notDirectory => some 20
  | .isDirectory => some 21
  | .nameTooLong => some 36
  | .nul => none

def reason : Trouble → String
  | .missing => "No such file or directory"
  | .exists => "File exists"
  | .notDirectory => "Not a directory"
  | .isDirectory => "Is a directory"
  | .nameTooLong => "File name too long"
  | .nul => "embedded null byte"

end Trouble

def FileError.message (error : FileError) : String :=
  match error.trouble.number? with
  | some number => s!"[Errno {number}] " ++ error.trouble.reason ++ ": " ++ quoted error.path
  | none => error.trouble.reason

namespace Tree

/-- The root of the tree is always a directory. -/
def entry? (tree : Tree) (place : Place) : Option Entry :=
  if place = [] then some .directory
  else (tree.entries.find? fun entry => entry.1 = place).map (·.2)

def put (place : Place) (entry : Entry) : List (Place × Entry) → List (Place × Entry)
  | [] => [(place, entry)]
  | (p, e) :: rest => if p = place then (place, entry) :: rest else (p, e) :: put place entry rest

def set (tree : Tree) (place : Place) (entry : Entry) : Tree :=
  { tree with entries := put place entry tree.entries }

/-- The most bytes that a part of a path may have. -/
def maxNameBytes : Nat := 255

/-- The most bytes that a path may have. -/
def maxPathBytes : Nat := 4095

/-- The place that a part leads to from a place that exists. -/
def next (tree : Tree) (place : Place) (part : String) : Except Trouble Place :=
  match tree.entry? place with
  | some .directory =>
    if maxNameBytes < part.utf8ByteSize then .error .nameTooLong else .ok (Path.step place part)
  | some (.file _) => .error .notDirectory
  | none => .error .missing

/-- The place that the parts lead to from a place that exists. -/
def walk (tree : Tree) : Place → List String → Except Trouble Place
  | place, [] => .ok place
  | place, part :: rest =>
    match tree.next place part with
    | .ok next => if (tree.entry? next).isSome then tree.walk next rest else .error .missing
    | .error trouble => .error trouble

/-- Refuses a path that cannot be walked, whatever is on the tree. -/
def checkPath (path : Path) : Except Trouble Unit :=
  if path.hasNul then .error .nul
  else if maxPathBytes < path.text.utf8ByteSize then .error .nameTooLong
  else .ok ()

def find (tree : Tree) (path : Path) : Except Trouble Place := do
  checkPath path
  tree.walk (path.start tree.cwd) path.parts

def found? (tree : Tree) (path : Path) : Option Entry :=
  match tree.find path with
  | .ok place => tree.entry? place
  | .error _ => none

/-- Whether something is at a path; where names are too long there is no answer. -/
def isPresent (tree : Tree) (path : Path) : Except FileError Bool :=
  match tree.find path with
  | .error .nameTooLong => .error ⟨.nameTooLong, path.text⟩
  | _ => .ok (tree.found? path).isSome

def isDirectory (tree : Tree) (path : Path) : Bool := tree.found? path = some .directory

/-- The content of a file; an error names the path as `shown`. -/
def read (tree : Tree) (path : Path) (shown : String) : Except FileError (List UInt8) := do
  let place ← (tree.find path).mapError (⟨·, shown⟩)
  match tree.entry? place with
  | some (.file content) => return content
  | some .directory => .error ⟨.isDirectory, shown⟩
  | none => .error ⟨.missing, shown⟩

/-- The place of a path whose last part may be missing, unless the path has no parts. -/
def findNew? (tree : Tree) (path : Path) : Except Trouble (Option Place) := do
  checkPath path
  let place ← tree.walk (path.start tree.cwd) path.parts.dropLast
  match path.parts.getLast? with
  | none => return none
  | some part => some <$> tree.next place part

/-- Makes one directory, whose parent must exist. -/
def makeDirectory (tree : Tree) (path : Path) : Except FileError Tree :=
  let result : Except Trouble Tree := do
    match ← tree.findNew? path with
    | none => .error .exists
    | some place =>
      if (tree.entry? place).isSome then .error .exists else return tree.set place .directory
  result.mapError (⟨·, path.text⟩)

/-- A directory may be there already. -/
def orPresent (tree : Tree) (path : Path) (result : Except FileError Tree) :
    Except FileError Tree :=
  match result with
  | .error _ => if tree.isDirectory path then .ok tree else result
  | .ok made => .ok made

/-- Makes a directory, after its parent if that is missing, which may be repeated `fuel` times. -/
def makeDirectoriesFrom : (fuel : Nat) → Tree → Path → Except FileError Tree
  | fuel, tree, path =>
    match tree.makeDirectory path, fuel with
    | .error ⟨.missing, _⟩, fuel + 1 => do
      let tree ← makeDirectoriesFrom fuel tree path.parent
      tree.orPresent path (tree.makeDirectory path)
    | result, _ => tree.orPresent path result

/-- Makes a directory and all that are missing above it. -/
def makeDirectories (tree : Tree) (path : Path) : Except FileError Tree :=
  makeDirectoriesFrom path.parts.length tree path

/-- Writes a file, whose directory must exist; an error names the path as `shown`. -/
def write (tree : Tree) (path : Path) (shown : String) (content : List UInt8) :
    Except FileError Tree :=
  let result : Except Trouble Tree := do
    match ← tree.findNew? path with
    | none => .error .isDirectory
    | some place =>
      if tree.entry? place = some .directory then .error .isDirectory
      else return tree.set place (.file content)
  result.mapError (⟨·, shown⟩)

/-- Removes a file or a directory with all that is in it. -/
def remove (tree : Tree) (path : Path) : Except FileError Tree := do
  let place ← (tree.find path).mapError (⟨·, path.text⟩)
  return { tree with entries := tree.entries.filter fun entry => !place.isPrefixOf entry.1 }

/-- The regular files below the working directory, with their paths from there. -/
def files (tree : Tree) : List (String × List UInt8) :=
  tree.entries.filterMap fun (place, entry) =>
    match entry with
    | .file content =>
      if tree.cwd.isPrefixOf place then
        some (String.intercalate "/" (place.drop tree.cwd.length), content)
      else none
    | .directory => none

/-- A tree in which only the working directory exists. -/
def empty (cwd : Place) : Tree :=
  ⟨cwd, (List.range cwd.length).map fun n => (cwd.take (n + 1), .directory)⟩

end Tree

end ClipCadence.Files
