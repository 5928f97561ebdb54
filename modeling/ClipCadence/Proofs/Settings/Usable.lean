import ClipCadence.Proofs.Fallible
import ClipCadence.Settings.Store

/-!
Settings that have been read from a document are usable. Each rule lets only values through that a
run can use, the values that stand in for missing fields are usable themselves, and settings with
overrides are read anew; so nothing that was loaded has to be checked again.

Main statements: `validate_usable` and `override_usable`.
-/

namespace ClipCadence

open Number Text Validation

/-! ### Checked values -/

theorem Validation.Checked.ofRule_eq_ok_iff {α : Type} {rule : Json → Except Cause α} {raw : Json}
    {a : α} : Checked.ofRule rule raw = .ok a ↔ rule raw = .ok a :=
  Fallible.mapError_eq_ok_iff

namespace Settings

/-! ### Rules -/

namespace Rule

theorem count_pos {raw : Json} {n : Nat} (h : count raw = .ok n) : 1 ≤ n := by
  obtain ⟨given, -, hgiven⟩ := Fallible.bind_eq_ok_iff.mp h
  split at hgiven
  · next hpos =>
    obtain rfl : given.toNat = n := Except.ok.inj hgiven
    omega
  · exact absurd hgiven (by simp)

theorem delay_nonnegative {raw : Json} {x : Binary64} (h : delay raw = .ok x) :
    x.isNonnegative = true := by
  obtain ⟨given, -, hgiven⟩ := Fallible.bind_eq_ok_iff.mp h
  split at hgiven
  · next hbound => exact Except.ok.inj hgiven ▸ hbound
  · exact absurd hgiven (by simp)

theorem timeout_positive {raw : Json} {x : Binary64} (h : timeout raw = .ok x) :
    x.isPositive = true := by
  obtain ⟨given, -, hgiven⟩ := Fallible.bind_eq_ok_iff.mp h
  split at hgiven
  · next hbound => exact Except.ok.inj hgiven ▸ hbound
  · exact absurd hgiven (by simp)

theorem label_ne_empty {raw : Json} {text : String} (h : label raw = .ok text) : text ≠ "" := by
  obtain ⟨raw, -, h⟩ := Fallible.bind_eq_ok_iff.mp h
  obtain ⟨found, -, h⟩ := Fallible.bind_eq_ok_iff.mp h
  split at h
  · exact absurd h (by simp)
  · next hne =>
    obtain rfl : String.ofList found = text := Except.ok.inj h
    intro hempty
    have hlist := congrArg String.toList hempty
    simp_all

end Rule

theorem checkCommand_ne_nil {raw : Json} {command : Option (List RawText)}
    (h : checkCommand raw = .ok command) : command ≠ some [] := by
  unfold checkCommand at h
  split at h
  · rintro rfl
    exact absurd h (by simp)
  · next items =>
    simp only at h
    split at h
    · exact absurd h (by simp)
    · next words hne _ =>
      rintro rfl
      exact hne (Option.some.inj (Except.ok.inj h))
    · exact absurd h (by simp)
  · exact absurd h (by simp)

/-! ### Fields and documents -/

/-- What holds of the default and of all that the check of a field lets through holds of the field
of every document. -/
theorem checkField_holds {α : Type} {P : α → Prop} {field : Field} {default a : α}
    {check : Json → Checked α} {fields : List (RawText × Json)} (hdefault : P default)
    (hcheck : ∀ raw a, check raw = .ok a → P a)
    (h : checkField field default check fields = .ok a) : P a := by
  unfold checkField at h
  split at h
  · exact Except.ok.inj h ▸ hdefault
  · exact hcheck _ a (Fallible.mapError_eq_ok_iff.mp h)

theorem defaults_usable : defaults.Usable where
  count_pos := by decide
  delay_nonnegative := by decide +kernel
  label_ne_empty := by decide
  command_ne_nil := by decide
  timeout_positive := by decide +kernel

theorem check_usable {fields : List (RawText × Json)} {s : Settings}
    (h : check fields = .ok s) : s.Usable := by
  obtain ⟨⟨count, delay, label, backend, command, skip, timeout⟩, hall, rfl⟩ :=
    Fallible.map_eq_ok_iff.mp h
  simp only [Checked.and_eq_ok_iff] at hall
  obtain ⟨hcount, hdelay, hlabel, -, hcommand, -, htimeout⟩ := hall
  exact {
    count_pos := checkField_holds (P := (1 ≤ ·)) defaults_usable.count_pos
      (fun _ _ h => Rule.count_pos (Checked.ofRule_eq_ok_iff.mp h)) hcount
    delay_nonnegative := checkField_holds (P := (·.isNonnegative = true))
      defaults_usable.delay_nonnegative
      (fun _ _ h => Rule.delay_nonnegative (Checked.ofRule_eq_ok_iff.mp h)) hdelay
    label_ne_empty := checkField_holds (P := (· ≠ "")) defaults_usable.label_ne_empty
      (fun _ _ h => Rule.label_ne_empty (Checked.ofRule_eq_ok_iff.mp h)) hlabel
    command_ne_nil := checkField_holds (P := (· ≠ some [])) defaults_usable.command_ne_nil
      (fun _ _ h => checkCommand_ne_nil h) hcommand
    timeout_positive := checkField_holds (P := (·.isPositive = true))
      defaults_usable.timeout_positive
      (fun _ _ h => Rule.timeout_positive (Checked.ofRule_eq_ok_iff.mp h)) htimeout }

theorem validate_usable {json : Json} {s : Settings} (h : validate json = .ok s) : s.Usable := by
  unfold validate at h
  split at h
  · exact check_usable (Fallible.mapError_eq_ok_iff.mp h)
  · exact absurd h (by simp)

theorem override_usable {base s : Settings} {overrides : Overrides} (hbase : base.Usable)
    (h : override base overrides = .ok s) : s.Usable := by
  unfold override at h
  split at h
  · exact Except.ok.inj h ▸ hbase
  · exact validate_usable h

end Settings

end ClipCadence
