/-!
Blank characters. Two sets occur. `isBlank` is what a trimmed text loses and what separates the
words of a wrapped line; it holds the information separators U+001C to U+001F. `isWhiteSpace` is
the Unicode property White_Space, which leaves them out; it is what may stand around a number
that is written as a text.

Main statements: `head?_trimBy_not` and `getLast?_trimBy_not`, a trimmed text neither starts nor
ends with a character of the class.
-/

namespace ClipCadence.Text

def isWhiteSpace (c : Char) : Bool :=
  let code := c.toNat
  (0x09 ≤ code && code ≤ 0x0d) || code = 0x20 || code = 0x85 || code = 0xa0 || code = 0x1680 ||
    (0x2000 ≤ code && code ≤ 0x200a) || code = 0x2028 || code = 0x2029 || code = 0x202f ||
    code = 0x205f || code = 0x3000

def isBlank (c : Char) : Bool :=
  isWhiteSpace c || (0x1c ≤ c.toNat && c.toNat ≤ 0x1f)

/-- The text without the characters of a class at its two ends. -/
def trimBy (p : Char → Bool) (text : List Char) : List Char :=
  ((text.dropWhile p).reverse.dropWhile p).reverse

def trim (text : List Char) : List Char := trimBy isBlank text

/-- The text without its trailing blanks. -/
def trimEnd (text : List Char) : List Char := (text.reverse.dropWhile isBlank).reverse

theorem head?_dropWhile_not {p : Char → Bool} {text : List Char} {c : Char}
    (h : (text.dropWhile p).head? = some c) : p c = false := by
  induction text with
  | nil => simp at h
  | cons a rest ih =>
    rw [List.dropWhile_cons] at h
    split at h
    · exact ih h
    · simp_all

theorem trimBy_prefix (p : Char → Bool) (text : List Char) :
    trimBy p text <+: text.dropWhile p := by
  rw [trimBy, ← List.reverse_suffix, List.reverse_reverse]
  exact List.dropWhile_suffix p

theorem head?_trimBy_not {p : Char → Bool} {text : List Char} {c : Char}
    (h : (trimBy p text).head? = some c) : p c = false := by
  obtain ⟨rest, hrest⟩ := trimBy_prefix p text
  apply head?_dropWhile_not
  rw [← hrest, List.head?_append, h, Option.some_or]

theorem getLast?_trimBy_not {p : Char → Bool} {text : List Char} {c : Char}
    (h : (trimBy p text).getLast? = some c) : p c = false := by
  rw [trimBy, List.getLast?_reverse] at h
  exact head?_dropWhile_not h

end ClipCadence.Text
