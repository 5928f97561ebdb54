import ClipCadence.Proofs.Fallible
import ClipCadence.Proofs.Json.Numbers

/-!
How large the numbers of a document can be. The reader takes no integer of more digits than
`maxIntLength`, and rounds every other number to a double; so no field of an object that has been
read holds a number of another kind.

Main statement: `parse_fields_sized`.
-/

namespace ClipCadence.Json

open Number Text Numeral

/-- A value that is no number of another size than those that are read. -/
def Sized : Json → Prop
  | .int n => (Nat.toDigits 10 n.natAbs).length ≤ maxIntLength
  | .real x => x.IsDouble
  | _ => True

/-- A word or a number. -/
def IsScalar : Json → Prop
  | .text _ | .list _ | .object _ => False
  | _ => True

theorem digits_wholePart (source : List Char) : Digits (wholePart source) := by
  unfold wholePart
  split
  · exact digits_zeros 1
  · exact fun c hc => List.mem_takeWhile_imp hc

theorem digits_of_unsignedParts? {negative : Bool} {body : List Char} {parts : NumberParts}
    (h : unsignedParts? negative body = some parts) : Digits parts.whole := by
  unfold unsignedParts? at h
  dsimp only at h
  split at h
  · cases h
  · rw [← Option.some.inj h]
    exact digits_wholePart body

theorem digits_of_numberParts? {source : List Char} {parts : NumberParts}
    (h : numberParts? source = some parts) : Digits parts.whole := by
  unfold numberParts? at h
  split at h <;> exact digits_of_unsignedParts? h

theorem number_sized {parts : NumberParts} (hwhole : Digits parts.whole) {found : Json}
    (h : number parts = .ok found) : found.IsScalar ∧ found.Sized := by
  unfold number at h
  split at h
  · split at h
    · cases h
    · next hlength =>
      rw [← Except.ok.inj h, Sized, natAbs_signedInt]
      exact ⟨trivial, length_toDigits_value hwhole (Nat.le_of_not_lt hlength) (by decide)⟩
  · rw [← Except.ok.inj h]
    exact ⟨trivial, Binary64.isDouble_ofDecimal _ _ _⟩

theorem words_sized : ∀ word ∈ words, word.2.IsScalar ∧ word.2.Sized := by
  simp [words, IsScalar, Sized, Binary64.IsDouble.nan, Binary64.IsDouble.infinite]

theorem scalar_sized {source : List Char} {at_ : Nat} {found : Json} {left : Rest}
    (h : scalar source at_ = .ok (found, left)) : found.IsScalar ∧ found.Sized := by
  unfold scalar at h
  split at h
  · next word value hword =>
    rw [← (Prod.mk.inj (Except.ok.inj h)).1]
    exact words_sized _ (List.mem_of_find?_eq_some hword)
  · split at h
    · cases h
    · next parts hparts =>
      obtain ⟨number, hnumber, hfound⟩ := Fallible.bind_eq_ok_iff.mp h
      rw [← (Prod.mk.inj (Except.ok.inj hfound)).1]
      exact number_sized (digits_of_numberParts? hparts) hnumber

/-! ### Fields -/

variable {fuel room at_ : Nat} {source : List Char} {left : Rest}

/-- What the reader can have found: a string, a list, an object with the fields up to its closing
brace, or a word or a number. -/
theorem value_eq_ok {found : Json} (h : value fuel room source at_ = .ok (found, left)) :
    (∃ text, found = .text text) ∨ (∃ contents, found = .list contents) ∨
      (∃ fields, found = .object fields ∧
        (fields = [] ∨ ∃ fuel room rest next,
          members fuel room [] rest next = .ok (fields, left))) ∨
      scalar source at_ = .ok (found, left) := by
  cases fuel with
  | zero =>
    rw [value] at h
    cases h
  | succ fuel =>
    unfold value at h
    split at h
    · obtain ⟨⟨text, rest⟩, -, hfound⟩ := Fallible.bind_eq_ok_iff.mp h
      exact .inl ⟨text, (Prod.mk.inj (Except.ok.inj hfound)).1.symm⟩
    · cases h
    · cases h
    · refine .inr (.inl ?_)
      split at h
      · exact ⟨[], (Prod.mk.inj (Except.ok.inj h)).1.symm⟩
      · obtain ⟨⟨contents, rest⟩, -, hfound⟩ := Fallible.bind_eq_ok_iff.mp h
        exact ⟨contents, (Prod.mk.inj (Except.ok.inj hfound)).1.symm⟩
    · refine .inr (.inr (.inl ?_))
      split at h
      · exact ⟨[], (Prod.mk.inj (Except.ok.inj h)).1.symm, .inl rfl⟩
      · obtain ⟨⟨fields, rest⟩, hfields, hfound⟩ := Fallible.bind_eq_ok_iff.mp h
        obtain ⟨rfl, rfl⟩ := Prod.mk.inj (Except.ok.inj hfound)
        exact ⟨fields, rfl, .inr ⟨_, _, _, _, hfields⟩⟩
    · exact .inr (.inr (.inr h))

theorem value_sized {found : Json} (h : value fuel room source at_ = .ok (found, left)) :
    found.Sized := by
  obtain ⟨text, rfl⟩ | ⟨contents, rfl⟩ | ⟨fields, rfl, -⟩ | hscalar := value_eq_ok h
  · trivial
  · trivial
  · trivial
  · exact (scalar_sized hscalar).2

theorem setField_sized {key : RawText} {item : Json} (hitem : item.Sized)
    {fields : List (RawText × Json)} (h : ∀ field ∈ fields, field.2.Sized) :
    ∀ field ∈ setField key item fields, field.2.Sized := by
  induction fields with
  | nil => exact List.forall_mem_singleton.mpr hitem
  | cons field fields ih =>
    rw [List.forall_mem_cons] at h
    rw [setField]
    split
    · exact List.forall_mem_cons.mpr ⟨hitem, h.2⟩
    · exact List.forall_mem_cons.mpr ⟨h.1, ih h.2⟩

theorem members_sized {fields found : List (RawText × Json)}
    (hfields : ∀ field ∈ fields, field.2.Sized)
    (h : members fuel room fields source at_ = .ok (found, left)) :
    ∀ field ∈ found, field.2.Sized := by
  induction fuel generalizing fields source at_ with
  | zero =>
    rw [members] at h
    cases h
  | succ fuel ih =>
    unfold members at h
    split at h
    · obtain ⟨⟨key, rest, next⟩, -, h⟩ := Fallible.bind_eq_ok_iff.mp h
      dsimp only at h
      split at h
      · obtain ⟨⟨item, rest, next⟩, hitem, h⟩ := Fallible.bind_eq_ok_iff.mp h
        have hset := @setField_sized key item (value_sized hitem) fields hfields
        dsimp only at h
        split at h
        · rw [← (Prod.mk.inj (Except.ok.inj h)).1]
          exact hset
        · exact ih hset h
        · cases h
      · cases h
    · cases h

/-- The numbers among the fields of a document are of the sizes that are read. -/
theorem parse_fields_sized {room : Room} {fields : List (RawText × Json)}
    (h : parse source room = .ok (.object fields)) : ∀ field ∈ fields, field.2.Sized := by
  unfold parse at h
  split at h
  · cases h
  · obtain ⟨⟨found, rest, next⟩, hvalue, h⟩ := Fallible.bind_eq_ok_iff.mp h
    dsimp only at h
    split at h
    · obtain rfl : found = .object fields := Except.ok.inj h
      obtain ⟨text, hfound⟩ | ⟨contents, hfound⟩ | ⟨others, hfound, hothers⟩ | hscalar :=
        value_eq_ok hvalue
      · cases hfound
      · cases hfound
      · obtain rfl : fields = others := Json.object.inj hfound
        obtain rfl | ⟨fuel, room, rest, next, hmembers⟩ := hothers
        · simp
        · exact members_sized (by simp) hmembers
      · exact (scalar_sized hscalar).1.elim
    · cases h

end ClipCadence.Json
