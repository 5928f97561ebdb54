import ClipCadence.Json.Reader
import ClipCadence.Proofs.Number.Digits
import ClipCadence.Proofs.Number.Shortest

/-!
Numbers that are read as they were written. The parts of a number are found again in front of any
text that does not go on with a number; an integer is the value of its digits, and a double that of
its digits and its exponent, wherever the layout has put the point.

Main statements: `number_int` and `number_double`.
-/

namespace ClipCadence.Json

open Number Numeral

/-! ### The parts of a number -/

def fractionText (fraction : List Char) : List Char :=
  if fraction.isEmpty then [] else '.' :: fraction

def exponentText : Option (Bool × List Char) → List Char
  | none => []
  | some (negative, digits) => 'e' :: (if negative then '-' else '+') :: digits

/-- A number without its sign, and with a sign in its exponent. -/
structure Magnitude where
  whole : List Char
  fraction : List Char
  exponent : Option (Bool × List Char)

namespace Magnitude

def text (m : Magnitude) : List Char :=
  m.whole ++ (fractionText m.fraction ++ exponentText m.exponent)

def parts (m : Magnitude) (negative : Bool) : NumberParts :=
  ⟨negative, m.whole, m.fraction, m.exponent, (Layout.signed negative m.text).length⟩

/-- The exponent of a number, zero if there is none. -/
def power (m : Magnitude) : Int :=
  match m.exponent with
  | some (negative, digits) => signedInt negative (Numeral.value digits)
  | none => 0

structure WellFormed (m : Magnitude) : Prop where
  whole : Whole m.whole
  fraction : Digits m.fraction
  exponent : ∀ negative digits, m.exponent = some (negative, digits) → digits ≠ [] ∧ Digits digits

end Magnitude

/-- What may follow a number: it does not go on in this text. -/
def Closes (rest : List Char) : Prop :=
  ∀ c ∈ rest.head?, c.isDigit = false ∧ c ≠ '.' ∧ c ≠ 'e' ∧ c ≠ 'E'

section Parts

variable {rest : List Char}

theorem takeWhile_isDigit {digits : List Char} (h : Digits digits)
    (hrest : ∀ c ∈ rest.head?, c.isDigit = false) :
    (digits ++ rest).takeWhile Char.isDigit = digits := by
  rw [List.takeWhile_append_of_pos h]
  cases rest with
  | nil => simp
  | cons c rest => simp [hrest c rfl]

theorem wholePart_append {whole : List Char} (h : Whole whole)
    (hrest : ∀ c ∈ rest.head?, c.isDigit = false) : wholePart (whole ++ rest) = whole := by
  cases h with
  | zero => rfl
  | positive hfirst hdigits =>
    rw [List.cons_append, wholePart]
    · exact takeWhile_isDigit hdigits hrest
    · exact fun tail htail => hfirst (List.cons.inj htail).1

theorem fractionPart_append {fraction : List Char} (h : Digits fraction)
    (hrest : ∀ c ∈ rest.head?, c.isDigit = false ∧ c ≠ '.') :
    fractionPart (fractionText fraction ++ rest) = fraction := by
  cases fraction with
  | nil =>
    show fractionPart rest = []
    unfold fractionPart
    split
    · next rest => exact absurd rfl (hrest '.' rfl).2
    · rfl
  | cons c fraction => exact takeWhile_isDigit h fun c hc => (hrest c hc).1

theorem exponentPart_append {exponent : Option (Bool × List Char)}
    (h : ∀ negative digits, exponent = some (negative, digits) → digits ≠ [] ∧ Digits digits)
    (hrest : Closes rest) :
    exponentPart (exponentText exponent ++ rest) =
      exponent.map fun e => (e.1, e.2, (exponentText exponent).length) := by
  match exponent with
  | none =>
    show exponentPart rest = none
    cases rest with
    | nil => rfl
    | cons c rest =>
      obtain ⟨-, -, hlower, hupper⟩ := hrest c rfl
      simp [exponentPart, hlower, hupper]
  | some (negative, digits) =>
    obtain ⟨hne, hdigits⟩ := h negative digits rfl
    have hrun : (digits ++ rest).takeWhile Char.isDigit = digits :=
      takeWhile_isDigit hdigits fun c hc => (hrest c hc).1
    have hlength : 2 + digits.length = digits.length + 1 + 1 := Nat.add_comm ..
    cases negative <;> simp [exponentText, exponentPart, hrun, hne, hlength]

/-- What stands behind the whole part of a number. -/
theorem noDigit_tail {exponent : Option (Bool × List Char)} (hrest : Closes rest) :
    ∀ c ∈ (exponentText exponent ++ rest).head?, c.isDigit = false ∧ c ≠ '.' := by
  intro c hc
  match exponent with
  | none => exact ⟨(hrest c hc).1, (hrest c hc).2.1⟩
  | some (negative, digits) =>
    obtain rfl : 'e' = c := by simpa [exponentText] using hc
    decide

theorem unsignedParts?_text {m : Magnitude} (h : m.WellFormed) (negative : Bool)
    (hrest : Closes rest) : unsignedParts? negative (m.text ++ rest) = some (m.parts negative) := by
  obtain ⟨whole, fraction, exponent⟩ := m
  obtain ⟨hwhole, hfraction, hexponent⟩ := h
  dsimp only at *
  have hbehind := @noDigit_tail rest exponent hrest
  have hfound : wholePart (whole ++ (fractionText fraction ++ (exponentText exponent ++ rest))) =
      whole := by
    apply wholePart_append hwhole
    cases fraction with
    | nil => exact fun c hc => (hbehind c hc).1
    | cons first rest => exact fun c hc => Option.some.inj hc ▸ rfl
  have hempty : whole.isEmpty = false := by
    obtain ⟨first, rest, rfl, -⟩ := hwhole.exists_cons
    rfl
  have hpoint : (if fraction.isEmpty then 0 else fraction.length + 1) =
      (fractionText fraction).length := by
    cases fraction <;> rfl
  have hlength : (Layout.signed negative (Magnitude.text ⟨whole, fraction, exponent⟩)).length =
      (if negative then 1 else 0) + whole.length + (fractionText fraction).length +
        (exponentText exponent).length := by
    rw [Layout.signed, Magnitude.text]
    cases negative <;> simp <;> omega
  rw [Magnitude.text, List.append_assoc, List.append_assoc, unsignedParts?, Magnitude.parts,
    hlength]
  simp only [hfound, hempty, List.drop_left, fractionPart_append hfraction hbehind, hpoint,
    exponentPart_append hexponent hrest]
  cases exponent <;> rfl

/-- The parts of a number are found in front of any text in which it does not go on. -/
theorem numberParts?_text {m : Magnitude} (h : m.WellFormed) (negative : Bool)
    (hrest : Closes rest) :
    numberParts? (Layout.signed negative m.text ++ rest) = some (m.parts negative) := by
  have hparts := unsignedParts?_text h negative hrest
  cases negative with
  | true => exact hparts
  | false =>
    obtain ⟨first, tail, hwhole, hfirst⟩ := h.whole.exists_cons
    have htext : m.text ++ rest =
        first :: (tail ++ (fractionText m.fraction ++ exponentText m.exponent) ++ rest) := by
      rw [Magnitude.text, hwhole, List.cons_append, List.cons_append]
    have hminus : first ≠ '-' := ne_of_isDigit hfirst rfl
    rw [Layout.signed, if_neg (by decide)]
    rw [htext] at hparts ⊢
    rw [numberParts?]
    · exact hparts
    · exact fun rest hrest => hminus (List.cons.inj hrest).1

end Parts

/-! ### Integers -/

def wholeNumber (n : Nat) : Magnitude := ⟨Nat.toDigits 10 n, [], none⟩

theorem wellFormed_wholeNumber (n : Nat) : (wholeNumber n).WellFormed where
  whole := whole_toDigits n
  fraction := fun _ h => absurd h List.not_mem_nil
  exponent := fun _ _ h => by cases h

theorem write_eq (n : Int) :
    Numeral.write n = Layout.signed (n < 0) (wholeNumber n.natAbs).text := by
  have htext : (wholeNumber n.natAbs).text = Nat.toDigits 10 n.natAbs := List.append_nil _
  simp only [Numeral.write, Layout.signed, htext, decide_eq_true_eq]

/-- An integer that is not too long is read as it was written. -/
theorem number_int {n : Int} (h : (Nat.toDigits 10 n.natAbs).length ≤ Numeral.maxIntLength) :
    number ((wholeNumber n.natAbs).parts (n < 0)) = .ok (.int n) := by
  have hvalue : signedInt (n < 0) n.natAbs = n := by
    simp only [signedInt, decide_eq_true_eq]
    split <;> omega
  simp only [number, Magnitude.parts, wholeNumber, List.isEmpty_nil, Option.isNone_none,
    Bool.and_self, reduceIte, if_neg (Nat.not_lt.mpr h), value_toDigits, hvalue]

/-! ### Doubles -/

theorem number_real {m : Magnitude} (h : m.fraction ≠ [] ∨ m.exponent ≠ none) (negative : Bool) :
    number (m.parts negative) =
      .ok (.real (.ofDecimal negative (Numeral.value (m.whole ++ m.fraction))
        (m.power - m.fraction.length))) := by
  rw [number, if_neg]
  · rfl
  · simpa [Magnitude.parts, Classical.or_iff_not_imp_left] using h

/-- A number that says the same as a decimal, wherever the point has been put. -/
structure Magnitude.Says (m : Magnitude) (d : Decimal) : Prop extends m.WellFormed where
  isReal : m.fraction ≠ [] ∨ m.exponent ≠ none
  reads : ∀ negative,
    Binary64.ofDecimal negative (Numeral.value (m.whole ++ m.fraction))
      (m.power - m.fraction.length) = .ofDecimal negative d.digits d.exponent

section Layouts

variable {digits : Nat} {exponent : Int}

theorem text_of_fraction {whole fraction : List Char} (h : fraction ≠ []) :
    (Magnitude.mk whole fraction none).text = whole ++ '.' :: fraction := by
  cases fraction with
  | nil => exact absurd rfl h
  | cons => simp [Magnitude.text, fractionText, exponentText]

/-- A whole number with a zero after the point. -/
theorem says_whole (hexponent : 0 ≤ exponent) (h : digits ≠ 0 ∨ exponent = 0) :
    (Magnitude.mk (Nat.toDigits 10 digits ++ Layout.zeros exponent.toNat) ['0'] none).Says
      ⟨digits, exponent⟩ where
  whole := by
    rcases h with hdigits | rfl
    · exact whole_append hdigits (digits_zeros _)
    · exact (List.append_nil _).symm ▸ whole_toDigits digits
  fraction := digits_zeros 1
  exponent := fun _ _ h => by cases h
  isReal := .inl (by simp)
  reads := by
    intro negative
    have hzeros : Nat.toDigits 10 digits ++ Layout.zeros exponent.toNat ++ ['0'] =
        Nat.toDigits 10 digits ++ Layout.zeros (exponent.toNat + 1) := by
      rw [List.append_assoc, Layout.zeros, Layout.zeros, List.replicate_succ']
    have hpower : 0 - (1 : Nat) = exponent - (exponent.toNat + 1 : Nat) := by omega
    show Binary64.ofDecimal negative (Numeral.value (_ ++ ['0'])) (0 - (1 : Nat)) = _
    rw [hzeros, value_append_zeros, value_toDigits, hpower, Binary64.ofDecimal_shift]

/-- Digits with the point between them. -/
theorem says_split {place : Nat} (hdigits : digits ≠ 0)
    (h : exponent + (Nat.toDigits 10 digits).length = place + 1)
    (hplace : place + 1 < (Nat.toDigits 10 digits).length) :
    (Magnitude.mk ((Nat.toDigits 10 digits).take (place + 1))
      ((Nat.toDigits 10 digits).drop (place + 1)) none).Says ⟨digits, exponent⟩ where
  whole := whole_take hdigits place
  fraction := fun c hc => digits_toDigits digits c (List.mem_of_mem_drop hc)
  exponent := fun _ _ h => by cases h
  isReal := .inl (by simpa using hplace)
  reads := by
    intro negative
    have hpower : 0 - (((Nat.toDigits 10 digits).drop (place + 1)).length : Int) = exponent := by
      rw [List.length_drop]
      omega
    show Binary64.ofDecimal negative (Numeral.value (_ ++ _)) (0 - _) = _
    rw [List.take_append_drop, value_toDigits, hpower]

/-- Digits behind the point, after some zeros. -/
theorem says_fraction {zeros : Nat}
    (h : exponent + (Nat.toDigits 10 digits).length + zeros = 0) :
    (Magnitude.mk ['0'] (Layout.zeros zeros ++ Nat.toDigits 10 digits) none).Says
      ⟨digits, exponent⟩ where
  whole := .zero
  fraction := (digits_zeros _).append (digits_toDigits _)
  exponent := fun _ _ h => by cases h
  isReal := .inl (by simp [Nat.toDigits_ne_nil])
  reads := by
    intro negative
    have hpower : 0 - ((Layout.zeros zeros ++ Nat.toDigits 10 digits).length : Int) = exponent := by
      rw [List.length_append, Layout.zeros, List.length_replicate]
      omega
    show Binary64.ofDecimal negative
      (Numeral.value (Layout.zeros (zeros + 1) ++ Nat.toDigits 10 digits)) (0 - _) = _
    rw [value_zeros_append, value_toDigits, hpower]

/-- The point after the first digit, and an exponent. -/
theorem says_exponent {first : Char} {rest : List Char} {place : Int} (zeros : Nat)
    (hfirst : Nat.toDigits 10 digits = first :: rest) (h : digits ≠ 0 ∨ exponent = 0)
    (hplace : place = exponent + rest.length) :
    (Magnitude.mk [first] rest
      (some (place < 0, Layout.zeros zeros ++ Nat.toDigits 10 place.natAbs))).Says
        ⟨digits, exponent⟩ where
  whole := by
    by_cases hzero : digits = 0
    · subst hzero
      obtain ⟨rfl, rfl⟩ := List.cons.inj (hfirst.symm.trans (Nat.toDigits_zero 10))
      exact .zero
    · have htake := whole_take hzero 0
      rw [hfirst] at htake
      exact htake
  fraction := fun c hc => digits_toDigits digits c (hfirst ▸ List.mem_cons_of_mem first hc)
  exponent := by
    rintro negative power ⟨rfl, rfl⟩
    exact ⟨by simp [Nat.toDigits_ne_nil], (digits_zeros _).append (digits_toDigits _)⟩
  isReal := .inr (by simp)
  reads := by
    intro negative
    have hpower : signedInt (place < 0) place.natAbs - rest.length = exponent := by
      simp only [signedInt, decide_eq_true_eq]
      split <;> omega
    show Binary64.ofDecimal negative (Numeral.value (first :: rest))
      (signedInt (place < 0) (Numeral.value (Layout.zeros zeros ++ _)) - rest.length) = _
    rw [← hfirst, value_zeros_append, value_toDigits, value_toDigits, hpower]

theorem exists_says_positional {layout : Layout} (hpoint : layout.wholePoint = true)
    (h : digits ≠ 0 ∨ exponent = 0) {place : Int}
    (hplace : place = exponent + (Nat.toDigits 10 digits).length - 1) :
    ∃ m : Magnitude, layout.positional (Nat.toDigits 10 digits) exponent place = m.text ∧
      m.Says ⟨digits, exponent⟩ := by
  have hlength : 0 < (Nat.toDigits 10 digits).length := Nat.length_toDigits_pos
  unfold Layout.positional
  rw [if_pos hpoint]
  by_cases hexponent : 0 ≤ exponent
  · rw [if_pos hexponent]
    exact ⟨_, rfl, says_whole hexponent h⟩
  rw [if_neg hexponent]
  by_cases hone : 0 ≤ place
  · rw [if_pos hone]
    have hsays : (Magnitude.mk ((Nat.toDigits 10 digits).take (place.toNat + 1))
        ((Nat.toDigits 10 digits).drop (place.toNat + 1)) none).Says ⟨digits, exponent⟩ :=
      says_split (h.resolve_right (by omega)) (by omega) (by omega)
    have hbehind : (Nat.toDigits 10 digits).drop (place.toNat + 1) ≠ [] :=
      hsays.isReal.resolve_right (by simp)
    exact ⟨_, (text_of_fraction hbehind).symm, hsays⟩
  · rw [if_neg hone]
    have hbehind : Layout.zeros (-place - 1).toNat ++ Nat.toDigits 10 digits ≠ [] := by
      simp [Nat.toDigits_ne_nil]
    exact ⟨_, (@text_of_fraction ['0'] _ hbehind).symm, says_fraction (by omega)⟩

theorem exists_says_exponentForm (layout : Layout) (h : digits ≠ 0 ∨ exponent = 0) {place : Int}
    (hplace : place = exponent + (Nat.toDigits 10 digits).length - 1) :
    ∃ m : Magnitude, layout.exponentForm (Nat.toDigits 10 digits) place = m.text ∧
      m.Says ⟨digits, exponent⟩ := by
  obtain ⟨first, rest, hfirst⟩ : ∃ first rest, Nat.toDigits 10 digits = first :: rest :=
    List.exists_cons_of_ne_nil Nat.toDigits_ne_nil
  have hpower : place = exponent + rest.length := by
    rw [hplace, hfirst, List.length_cons]
    omega
  refine ⟨_, ?_, says_exponent (layout.exponentWidth - (Nat.toDigits 10 place.natAbs).length)
    hfirst h hpower⟩
  rw [hfirst]
  cases rest <;> simp [Layout.exponentForm, Magnitude.text, fractionText, exponentText]

/-- Wherever a layout puts the point, the number says the same, if there is always a point or an
exponent. -/
theorem exists_says {layout : Layout} (hpoint : layout.wholePoint = true) {d : Decimal}
    (h : d.digits ≠ 0 ∨ d.exponent = 0) :
    ∃ m : Magnitude, layout.decimal d = m.text ∧ m.Says d := by
  unfold Layout.decimal
  dsimp only
  split
  · exact exists_says_positional hpoint h rfl
  · exact exists_says_exponentForm layout h rfl

/-! ### Doubles in a layout -/

/-- The digits that are written for a double. -/
theorem chosen_digits {units : Nat} (hlimit : units < Binary64.limit)
    (hwhole : Binary64.grain units ∣ units) :
    let d : Decimal := if units = 0 then ⟨0, 0⟩ else .shortest units
    (d.digits ≠ 0 ∨ d.exponent = 0) ∧
      ∀ negative, Binary64.ofDecimal negative d.digits d.exponent = .finite negative units := by
  by_cases hzero : units = 0
  · subst hzero
    exact ⟨.inr rfl, fun negative => Binary64.ofDecimal_zero negative 0⟩
  · rw [if_neg hzero]
    exact ⟨.inl (Decimal.shortest_digits_ne_zero hzero hlimit hwhole),
      Decimal.ofDecimal_shortest hzero hlimit hwhole⟩

/-- A finite double is read as it was written, in every layout that always has a point or an
exponent. -/
theorem number_double {layout : Layout} (hpoint : layout.wholePoint = true) {units : Nat}
    (hlimit : units < Binary64.limit) (hwhole : Binary64.grain units ∣ units) (negative : Bool) :
    ∃ m : Magnitude,
      layout.double Decimal.shortest (.finite negative units) = Layout.signed negative m.text ∧
      m.WellFormed ∧ number (m.parts negative) = .ok (.real (.finite negative units)) := by
  obtain ⟨hdigits, hreads⟩ := chosen_digits hlimit hwhole
  obtain ⟨m, htext, hsays⟩ := exists_says hpoint hdigits
  refine ⟨m, congrArg (Layout.signed negative) htext, hsays.toWellFormed, ?_⟩
  rw [number_real hsays.isReal, hsays.reads, hreads]

end Layouts

/-! ### Numbers of a document -/

/-- A number starts with a digit, after a minus at most. -/
theorem signed_text_eq {m : Magnitude} (h : m.WellFormed) (negative : Bool) :
    ∃ first rest, first.isDigit = true ∧
      Layout.signed negative m.text = Layout.signed negative (first :: rest) := by
  obtain ⟨first, rest, hwhole, hfirst⟩ := h.whole.exists_cons
  exact ⟨first, _, hfirst, by rw [Magnitude.text, hwhole, List.cons_append]⟩

theorem words_find? {first : Char} (hfirst : first.isDigit = true) (negative : Bool)
    (rest : List Char) :
    (words.find? fun word => word.1.isPrefixOf (Layout.signed negative (first :: rest))) =
      none := by
  have hne {c : Char} (hc : c.isDigit = false) : (c == first) = false :=
    beq_eq_false_iff_ne.mpr (ne_of_isDigit hfirst hc).symm
  have hletters : ('n' == first) = false ∧ ('t' == first) = false ∧ ('f' == first) = false ∧
      ('N' == first) = false ∧ ('I' == first) = false ∧ ('-' == first) = false :=
    ⟨hne rfl, hne rfl, hne rfl, hne rfl, hne rfl, hne rfl⟩
  cases negative <;> simp [words, Layout.signed, List.isPrefixOf, hletters]

/-- A number is read as a value. -/
theorem scalar_text {m : Magnitude} (h : m.WellFormed) {negative : Bool} {found : Json}
    (hfound : number (m.parts negative) = .ok found) {rest : List Char} (hrest : Closes rest)
    (at_ : Nat) :
    ∃ after, scalar (Layout.signed negative m.text ++ rest) at_ = .ok (found, rest, after) := by
  obtain ⟨first, tail, hfirst, htext⟩ := signed_text_eq h negative
  have hwords : (words.find? fun word =>
      word.1.isPrefixOf (Layout.signed negative m.text ++ rest)) = none := by
    have hsource : Layout.signed negative (first :: tail) ++ rest =
        Layout.signed negative (first :: (tail ++ rest)) := by
      cases negative <;> rfl
    rw [htext, hsource]
    exact words_find? hfirst negative _
  refine ⟨at_ + (m.parts negative).length, ?_⟩
  rw [scalar, hwords, numberParts?_text h negative hrest]
  dsimp only
  rw [hfound, Magnitude.parts, List.drop_left]
  rfl

end ClipCadence.Json
