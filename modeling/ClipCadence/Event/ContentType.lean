/-!
The kind of content that a clipboard history is expected to recognise in a text. The rules are
tried in this order: the scheme of a web address, a keyword of a program, the shape of a path,
the shape of a password; any other text is plain.
-/

namespace ClipCadence

inductive ContentType where
  | text
  | url
  | code
  | password
  | file
  | image
  | other
  deriving DecidableEq, Repr, Inhabited

namespace ContentType

def all : List ContentType := [.text, .url, .code, .password, .file, .image, .other]

def label : ContentType → String
  | .text => "Text"
  | .url => "Url"
  | .code => "Code"
  | .password => "Password"
  | .file => "File"
  | .image => "Image"
  | .other => "Other"

def icon : ContentType → String
  | .text => "📝"
  | .url => "🔗"
  | .code => "💻"
  | .password => "🔒"
  | .file => "📁"
  | .image => "🖼️"
  | .other => "📄"

def ofLabel? (label : String) : Option ContentType := all.find? (·.label = label)

theorem mem_all (t : ContentType) : t ∈ all := by cases t <;> decide

@[simp] theorem ofLabel?_label (t : ContentType) : ofLabel? t.label = some t := by
  cases t <;> decide

/-- Whether a word occurs anywhere in a text. -/
def occurs (word : List Char) : List Char → Bool
  | [] => word.isEmpty
  | c :: rest => word.isPrefixOf (c :: rest) || occurs word rest

def schemes : List String := ["http://", "https://"]

def keywords : List String := ["fn ", "impl ", "struct "]

/-- Characters that make a short text without spaces look like a password. -/
def passwordMarks : List Char := "!@#$%^&*()-_=+[]\x7b\x7d;:,.<>?/\\|`~".toList

def isUrl (text : List Char) : Bool := schemes.any fun scheme => scheme.toList.isPrefixOf text

def isCode (text : List Char) : Bool := keywords.any fun word => occurs word.toList text

def isPath (text : List Char) : Bool :=
  text.contains '/' && !text.contains ' ' && text.length < 256

def isPassword (text : List Char) : Bool :=
  !text.isEmpty && text.length < 50 && !text.contains ' ' &&
    text.any passwordMarks.contains

def classifyChars (text : List Char) : ContentType :=
  if isUrl text then .url
  else if isCode text then .code
  else if isPath text then .file
  else if isPassword text then .password
  else .text

def classify (text : String) : ContentType := classifyChars text.toList

end ContentType

end ClipCadence
