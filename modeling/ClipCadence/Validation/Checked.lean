import ClipCadence.Validation.Issue

/-!
Checked values: what has been made of a part of a document, or the issues found in it. Two checked
values are put together by `and`, which keeps the issues of both, so that no part hides the
issues of another.
-/

namespace ClipCadence.Validation

abbrev Checked (α : Type) := Except (List Issue) α

namespace Checked

variable {α β : Type}

def issues : Checked α → List Issue
  | .ok _ => []
  | .error found => found

def and (x : Checked α) (y : Checked β) : Checked (α × β) :=
  match x, y with
  | .ok a, .ok b => .ok (a, b)
  | x, y => .error (x.issues ++ y.issues)

/-- The items of a list, each checked. -/
def all : List (Checked α) → Checked (List α)
  | [] => .ok []
  | x :: rest => (x.and (all rest)).map fun pair => pair.1 :: pair.2

/-- A part of a document, as a part of that document. -/
def under (step : Step) (x : Checked α) : Checked α := x.mapError (·.map (Issue.under step))

/-- The result of a rule, with the refused value itself as the place of the issue. -/
def ofRule (rule : Json → Except Cause α) (raw : Json) : Checked α :=
  (rule raw).mapError fun cause => [⟨[], cause, raw⟩]

@[simp] theorem issues_ok (a : α) : issues (.ok a : Checked α) = [] := rfl

@[simp] theorem issues_error (found : List Issue) :
    issues (.error found : Checked α) = found := rfl

@[simp] theorem issues_map (f : α → β) (x : Checked α) : issues (x.map f) = issues x := by
  cases x <;> rfl

@[simp] theorem issues_and (x : Checked α) (y : Checked β) :
    (x.and y).issues = x.issues ++ y.issues := by
  cases x <;> cases y <;> simp [and]

theorem and_eq_ok_iff {x : Checked α} {y : Checked β} {a : α} {b : β} :
    x.and y = .ok (a, b) ↔ x = .ok a ∧ y = .ok b := by
  cases x <;> cases y <;> simp [and]

@[simp] theorem issues_all (xs : List (Checked α)) :
    (all xs).issues = xs.flatMap issues := by
  induction xs with
  | nil => rfl
  | cons x rest ih => simp [all, ih]

@[simp] theorem issues_under (step : Step) (x : Checked α) :
    (x.under step).issues = x.issues.map (Issue.under step) := by
  cases x <;> rfl

@[simp] theorem under_ok (step : Step) (a : α) :
    under step (.ok a : Checked α) = .ok a := rfl

end Checked

end ClipCadence.Validation
