/-!
The strings of a JSON document. Its escapes name UTF-16 code units, so a string may hold half of
a surrogate pair without the other half. `RawText` keeps such a half as it is; the text becomes a
`String`, and can be encoded, only if there is none.
-/

namespace ClipCadence.Text

inductive Glyph where
  | char (c : Char)
  /-- A surrogate, U+D800 to U+DFFF, that stands alone. -/
  | half (code : Nat)
  deriving DecidableEq, Repr, Inhabited

/-- The character for a glyph, if a mark stands for every half of a pair. -/
def Glyph.marked (mark : Char) : Glyph → Char
  | .char c => c
  | .half _ => mark

/-- How a glyph is written where a text is only looked at: U+FFFD for half of a pair. -/
def Glyph.shown : Glyph → Char := marked '\ufffd'

abbrev RawText := List Glyph

namespace RawText

def ofChars (text : List Char) : RawText := text.map .char

def ofString (text : String) : RawText := ofChars text.toList

def chars? : RawText → Option (List Char)
  | [] => some []
  | .char c :: rest => (chars? rest).map (c :: ·)
  | .half _ :: _ => none

/-- The text as a `String`, unless a surrogate stands alone in it. -/
def toString? (text : RawText) : Option String := (chars? text).map String.ofList

/-- Whether the text can be encoded. -/
def isEncodable (text : RawText) : Bool := (chars? text).isSome

def display (text : RawText) : String := String.ofList (text.map Glyph.shown)

@[simp] theorem chars?_ofChars (text : List Char) : chars? (ofChars text) = some text := by
  induction text with
  | nil => rfl
  | cons c rest ih => simpa [ofChars, chars?] using ih

@[simp] theorem map_marked_ofChars (mark : Char) (text : List Char) :
    (ofChars text).map (Glyph.marked mark) = text := by
  have h : Glyph.marked mark ∘ Glyph.char = id := rfl
  simp [ofChars, h]

@[simp] theorem toString?_ofString (text : String) : toString? (ofString text) = some text := by
  simp [toString?, ofString]

@[simp] theorem display_ofString (text : String) : display (ofString text) = text := by
  have h : Glyph.shown ∘ Glyph.char = id := rfl
  simp [display, ofString, ofChars, h]

theorem ofChars_of_chars? {raw : RawText} {text : List Char} (h : chars? raw = some text) :
    raw = ofChars text := by
  induction raw generalizing text with
  | nil => simp_all [chars?, ofChars]
  | cons g rest ih =>
    cases g with
    | half code => simp [chars?] at h
    | char c =>
      simp only [chars?, Option.map_eq_some_iff] at h
      obtain ⟨tail, htail, rfl⟩ := h
      simp [ofChars, ih htail]

theorem exists_ofChars {raw : RawText} (h : raw.isEncodable = true) :
    ∃ text, raw = ofChars text := by
  obtain ⟨text, htext⟩ := Option.isSome_iff_exists.mp h
  exact ⟨text, ofChars_of_chars? htext⟩

end RawText

end ClipCadence.Text
