/-!
Paths of files. Empty parts and single dots of a written path do not count, double dots do: they
are kept, since the directory before them may not exist. `Path.place` is the place of a path on
the tree if every double dot is taken to undo the part before it.
-/

namespace ClipCadence.Files

/-- The way from the root of the tree to a file or directory. -/
abbrev Place := List String

structure Path where
  /-- What stands before the first part: nothing, one slash, or exactly two. -/
  root : String
  parts : List String
  deriving DecidableEq, Repr

namespace Path

def rootOf : List Char → String
  | '/' :: '/' :: '/' :: _ => "/"
  | '/' :: '/' :: _ => "//"
  | '/' :: _ => "/"
  | _ => ""

def ofString (text : String) : Path :=
  let parts := (text.toList.splitOnP (· = '/')).map String.ofList
  ⟨rootOf text.toList, parts.filter fun part => part ≠ "" ∧ part ≠ "."⟩

def isAbsolute (path : Path) : Bool := path.root ≠ ""

def text (path : Path) : String :=
  if path.root = "" ∧ path.parts = [] then "." else path.root ++ String.intercalate "/" path.parts

def parent (path : Path) : Path := { path with parts := path.parts.dropLast }

/-- A path below this one. -/
def child (path : Path) (names : List String) : Path := { path with parts := path.parts ++ names }

/-- The place that is one part further. -/
def step (place : Place) (part : String) : Place :=
  if part = ".." then place.dropLast else place ++ [part]

def start (cwd : Place) (path : Path) : Place := if path.isAbsolute then [] else cwd

/-- Whether a NUL stands in a path, which no path of a file can hold. -/
def hasNul (path : Path) : Bool := path.parts.any fun part => part.toList.contains '\x00'

def place (cwd : Place) (path : Path) : Place := path.parts.foldl step (path.start cwd)

end Path

end ClipCadence.Files
