import ClipCadence.Json.Writer
import ClipCadence.Settings.Basic
import ClipCadence.Text.Utf8

/-!
The written form of settings. A text that holds half of a surrogate pair cannot be encoded, and
settings with such a text cannot be shown.
-/

namespace ClipCadence

open Text

/-- The halves of surrogate pairs that stand together in a text, after `position` glyphs. -/
structure Unencodable where
  position : Nat
  first : Nat
  more : List Nat
  deriving DecidableEq, Repr

namespace Unencodable

def message (error : Unencodable) : String :=
  let reason := "surrogates not allowed"
  match error.more with
  | [] =>
    "'utf-8' codec can't encode character '" ++
      String.ofList (Quoted.codeEscape error.first) ++
      s!"' in position {error.position}: {reason}"
  | more =>
    s!"'utf-8' codec can't encode characters in position {error.position}" ++
      s!"-{error.position + more.length}: {reason}"

def halves : RawText → List Nat
  | .half code :: rest => code :: halves rest
  | _ => []

def first? (position : Nat) : RawText → Option Unencodable
  | [] => none
  | .char _ :: rest => first? (position + 1) rest
  | .half code :: rest => some ⟨position, code, halves rest⟩

end Unencodable

namespace Settings

/-- The texts of settings in the order in which they are written. -/
def texts (s : Settings) : List RawText :=
  .ofString s.label :: s.backend.toList ++ s.command.getD []

def document (s : Settings) : List Char := s.toJson.write

def document? (s : Settings) : Except Unencodable (List Char) :=
  match s.texts.findSome? (Unencodable.first? 0) with
  | some error => .error error
  | none => .ok s.document

/-- The document that a user starts from. -/
def defaultDocument : List Char := defaults.document ++ ['\n']

def defaultFile : List UInt8 := Utf8.encode defaultDocument

end Settings

end ClipCadence
