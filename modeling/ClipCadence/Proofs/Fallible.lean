/-!
Results and actions that may fail. Loading, commands and rehearsals are actions on a state that end
at the first error, so what some of them do one after the other is taken apart here, once: into what
each result must have been, or into the run of the first action and the run of the rest. An action
that fails leaves the state as it was at that point, and nothing comes after it.
-/

namespace ClipCadence.Fallible

/-! ### Results -/

section Results

variable {ε δ α β : Type} {x : Except ε α} {a : α} {b : β}

theorem bind_ok (h : x = .ok a) (f : α → Except ε β) : (x >>= f) = f a := by
  rw [h]
  rfl

theorem bind_eq_ok_iff {f : α → Except ε β} :
    (x >>= f) = .ok b ↔ ∃ a, x = .ok a ∧ f a = .ok b := by
  cases x <;> simp [bind, Except.bind]

theorem bind_eq_error_iff {f : α → Except ε β} {error : ε} :
    (x >>= f) = .error error ↔ x = .error error ∨ ∃ a, x = .ok a ∧ f a = .error error := by
  cases x <;> simp [bind, Except.bind]

@[simp] theorem mapError_ok (f : ε → δ) (a : α) : (Except.ok a).mapError f = .ok a := rfl

@[simp] theorem mapError_error (f : ε → δ) (error : ε) :
    (Except.error error : Except ε α).mapError f = .error (f error) := rfl

@[simp] theorem mapError_eq_ok_iff {f : ε → δ} : x.mapError f = .ok a ↔ x = .ok a := by
  cases x <;> simp

theorem map_eq_ok_iff {f : α → β} : x.map f = .ok b ↔ ∃ a, x = .ok a ∧ f a = b := by
  cases x <;> simp [Except.map]

theorem toOption_eq_some_iff : x.toOption = some a ↔ x = .ok a := by
  cases x <;> simp [Except.toOption]

end Results

/-! ### Actions -/

section Actions

variable {ε σ α β : Type} {x : ExceptT ε (StateM σ) α} {f : α → ExceptT ε (StateM σ) β} {s t : σ}

theorem run_bind_ok {a : α} (h : x.run s = (.ok a, t)) : (x >>= f).run s = (f a).run t := by
  show ExceptT.bindCont f (x.run s).1 (x.run s).2 = (f a).run t
  rw [h]
  rfl

theorem run_bind_error {error : ε} (h : x.run s = (.error error, t)) :
    (x >>= f).run s = (.error error, t) := by
  show ExceptT.bindCont f (x.run s).1 (x.run s).2 = (.error error, t)
  rw [h]
  rfl

end Actions

end ClipCadence.Fallible
