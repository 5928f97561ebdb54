import ClipCadence.Proofs.Json.Sizes
import ClipCadence.Proofs.Settings.Overrides

/-!
Settings whose numbers can be written down and read again. Everything that is read from a file is of
this kind: the reader takes no other numbers, the rules that turn a text or another number into a
setting make none, and there is none among the values that stand in for missing fields.

Main statement: `ofBytes_representable`.
-/

namespace ClipCadence

open Number Text

namespace Settings

/-- The doubles of the settings are doubles, and the count has no more digits than are read. -/
structure Representable (s : Settings) : Prop where
  count_length : (Nat.toDigits 10 s.count).length ≤ Numeral.maxIntLength
  delay_isDouble : s.delay.IsDouble
  timeout_isDouble : s.timeout.IsDouble

end Settings

namespace Number.Numeral

theorem digits_length {negative : Bool} {text : List Char} {n : Int}
    (h : digits negative text = .ok n) : (Nat.toDigits 10 n.natAbs).length ≤ maxIntLength := by
  unfold digits at h
  split at h
  · rw [← Except.ok.inj h]
    decide
  · dsimp only at h
    split at h
    · cases h
    · split at h
      · cases h
      · next hlength =>
        split at h
        · cases h
        · rw [← Except.ok.inj h, natAbs_signedInt]
          exact length_toDigits_value (fun c hc => List.mem_takeWhile_imp hc)
            (Nat.le_of_not_lt hlength) (by decide)

theorem integer_length {text : List Char} {n : Int} (h : integer text = .ok n) :
    (Nat.toDigits 10 n.natAbs).length ≤ maxIntLength := by
  unfold integer at h
  dsimp only at h
  split at h
  · cases h
  · split at h <;> exact digits_length h

theorem decimal?_isDouble {negative : Bool} {text : List Char} {x : Binary64}
    (h : decimal? negative text = some x) : x.IsDouble := by
  unfold decimal? at h
  dsimp only at h
  split at h
  · cases h
  · split at h <;>
    · obtain ⟨power, -, hx⟩ := Option.bind_eq_some_iff.mp h
      rw [← Option.some.inj hx]
      exact Binary64.isDouble_ofDecimal _ _ _

theorem plainReal?_isDouble {text : List Char} {x : Binary64} (h : plainReal? text = some x) :
    x.IsDouble := by
  unfold plainReal? at h
  dsimp only at h
  split at h
  · rw [← Option.some.inj h]
    exact .infinite
  · split at h
    · rw [← Option.some.inj h]
      exact .nan
    · exact decimal?_isDouble h

theorem real?_isDouble {text : List Char} {x : Binary64} (h : real? text = some x) :
    x.IsDouble := by
  unfold real? at h
  cases hplain : plainReal? (trimBy isWhiteSpace text) with
  | some y =>
    rw [hplain] at h
    exact plainReal?_isDouble (hplain.trans h)
  | none =>
    rw [hplain] at h
    obtain ⟨plain, -, hgrouped⟩ := Option.bind_eq_some_iff.mp h
    exact plainReal?_isDouble hgrouped

end Number.Numeral

namespace Settings

/-! ### Rules -/

namespace Rule

variable {raw : Json}

theorem wholeReal_length {x : Binary64} {n : Int} (h : wholeReal x = .ok n) :
    (Nat.toDigits 10 n.natAbs).length ≤ Numeral.maxIntLength := by
  have hfits : fitsWord n = true := by
    unfold wholeReal at h
    split at h
    · split at h
      · cases h
      · split at h
        · next hfits => exact Except.ok.inj h ▸ hfits
        · cases h
    · cases h
  obtain ⟨hlow, hhigh⟩ := Bool.and_eq_true_iff.mp hfits
  have habove : -wordBound < n := of_decide_eq_true hlow
  have hbelow : n < wordBound := of_decide_eq_true hhigh
  have hshort : (Nat.toDigits 10 n.natAbs).length ≤ 20 := by
    rw [Nat.length_toDigits_le_iff (by decide) (by decide)]
    unfold wordBound at habove hbelow
    omega
  exact hshort.trans (by decide)

theorem integer_length (hraw : raw.Sized) {n : Int} (h : integer raw = .ok n) :
    (Nat.toDigits 10 n.natAbs).length ≤ Numeral.maxIntLength := by
  unfold integer at h
  split at h
  · exact Except.ok.inj h ▸ hraw
  · rw [← Except.ok.inj h]
    split <;> decide
  · exact wholeReal_length h
  · obtain ⟨text, -, htext⟩ := Fallible.bind_eq_ok_iff.mp h
    exact Numeral.integer_length (Fallible.mapError_eq_ok_iff.mp htext)
  · cases h

theorem count_length (hraw : raw.Sized) {n : Nat} (h : count raw = .ok n) :
    (Nat.toDigits 10 n).length ≤ Numeral.maxIntLength := by
  obtain ⟨given, hgiven, h⟩ := Fallible.bind_eq_ok_iff.mp h
  split at h
  · next hpos =>
    have hlength := integer_length hraw hgiven
    obtain rfl : given.toNat = n := Except.ok.inj h
    have hsame : given.natAbs = given.toNat := by omega
    rwa [hsame] at hlength
  · cases h

theorem real_isDouble (hraw : raw.Sized) {x : Binary64} (h : real raw = .ok x) : x.IsDouble := by
  unfold real at h
  split at h
  · exact Except.ok.inj h ▸ hraw
  · dsimp only at h
    split at h
    · rw [← Except.ok.inj h]
      exact Binary64.isDouble_ofRatio _ _ _
    · cases h
  · rw [← Except.ok.inj h]
    exact Binary64.isDouble_ofRatio _ _ _
  · obtain ⟨text, -, htext⟩ := Fallible.bind_eq_ok_iff.mp h
    unfold realText at htext
    split at htext
    · next hreal => exact Except.ok.inj htext ▸ Numeral.real?_isDouble hreal
    · cases htext
  · cases h

theorem delay_isDouble (hraw : raw.Sized) {x : Binary64} (h : delay raw = .ok x) :
    x.IsDouble := by
  obtain ⟨given, hgiven, h⟩ := Fallible.bind_eq_ok_iff.mp h
  split at h
  · exact Except.ok.inj h ▸ real_isDouble hraw hgiven
  · cases h

theorem timeout_isDouble (hraw : raw.Sized) {x : Binary64} (h : timeout raw = .ok x) :
    x.IsDouble := by
  obtain ⟨given, hgiven, h⟩ := Fallible.bind_eq_ok_iff.mp h
  split at h
  · exact Except.ok.inj h ▸ real_isDouble hraw hgiven
  · cases h

end Rule

/-! ### Documents -/

/-- What holds of the default and of all that a rule makes of the numbers of a document holds of the
field. -/
theorem checkField_of_sized {α : Type} {P : α → Prop} {field : Field} {default a : α}
    {rule : Json → Except Validation.Cause α} {fields : List (RawText × Json)}
    (hdefault : P default) (hrule : ∀ raw a, raw.Sized → rule raw = .ok a → P a)
    (hfields : ∀ entry ∈ fields, entry.2.Sized)
    (h : checkField field default (.ofRule rule) fields = .ok a) : P a := by
  unfold checkField at h
  split at h
  · exact Except.ok.inj h ▸ hdefault
  · next raw hraw =>
    exact hrule raw a (hfields _ (Json.mem_of_field? hraw))
      (Validation.Checked.ofRule_eq_ok_iff.mp (Fallible.mapError_eq_ok_iff.mp h))

theorem defaults_representable : defaults.Representable where
  count_length := by decide
  delay_isDouble := by
    dsimp only [defaults]
    exact Binary64.isDouble_ofNat 2
  timeout_isDouble := by
    dsimp only [defaults]
    exact Binary64.isDouble_ofNat 5

theorem check_representable {fields : List (RawText × Json)}
    (hfields : ∀ entry ∈ fields, entry.2.Sized) {s : Settings} (h : check fields = .ok s) :
    s.Representable := by
  obtain ⟨hcount, hdelay, -, -, -, -, htimeout⟩ := check_eq_ok_iff_checkFields.mp h
  exact {
    count_length := checkField_of_sized
      (P := fun n => (Nat.toDigits 10 n).length ≤ Numeral.maxIntLength)
      defaults_representable.count_length
      (fun _ _ hraw h => Rule.count_length hraw h) hfields hcount
    delay_isDouble := checkField_of_sized (P := Binary64.IsDouble)
      defaults_representable.delay_isDouble
      (fun _ _ hraw h => Rule.delay_isDouble hraw h) hfields hdelay
    timeout_isDouble := checkField_of_sized (P := Binary64.IsDouble)
      defaults_representable.timeout_isDouble
      (fun _ _ hraw h => Rule.timeout_isDouble hraw h) hfields htimeout }

theorem ofBytes_representable {room : Json.Room} {source : Source} {bytes : List UInt8}
    {s : Settings} (h : ofBytes room source bytes = .ok s) : s.Representable := by
  obtain ⟨text, -, json, hparse, hvalid⟩ := ofBytes_eq_ok_iff.mp h
  cases json with
  | object fields =>
    exact check_representable (Json.parse_fields_sized hparse)
      (Fallible.mapError_eq_ok_iff.mp hvalid)
  | _ => cases hvalid

end Settings

end ClipCadence
