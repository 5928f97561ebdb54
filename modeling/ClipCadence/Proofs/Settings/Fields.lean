import ClipCadence.Proofs.Settings.Overrides
import Mathlib.Data.List.Basic

/-!
Documents, field by field. What a document says of one field is a document of its own, `Field.only`,
and the fields of that document are those of the whole one: the field itself with its value, every
other field without one. So the settings of a document are put together from the settings that its
fields have alone, and what is wrong with it is what is wrong with its fields, one after the other.

Main statement: `validated_field_by_field`.
-/

namespace ClipCadence.Settings

open Text Validation

/-! ### Issues of a document -/

/-- All that is wrong with a document. -/
def issuesOf (document : Json) : List Issue :=
  match validate document with
  | .ok _ => []
  | .error refusal => refusal.issues

theorem issuesOf_object (fields : List (RawText × Json)) :
    issuesOf (.object fields) = (check fields : Checked Settings).issues := by
  rw [issuesOf, validate]
  cases check fields <;> rfl

theorem issuesOf_of_error {fields : List (RawText × Json)} {refusal : Refusal}
    (h : validate (.object fields) = .error refusal) :
    refusal = ⟨modelName, issuesOf (.object fields)⟩ := by
  rw [issuesOf_object]
  rw [validate] at h
  cases hcheck : check fields with
  | ok s => simp [hcheck] at h
  | error found =>
    rw [hcheck] at h
    exact (Except.error.inj h).symm

theorem validate_eq_ok_iff {fields : List (RawText × Json)} {s : Settings} :
    validate (.object fields) = .ok s ↔
      ∀ field : Field, field.inDocument fields = .ok (s.value field) :=
  Fallible.mapError_eq_ok_iff.trans check_eq_ok_iff

theorem exists_validate_eq_ok_iff {fields : List (RawText × Json)} :
    (∃ s, validate (.object fields) = .ok s) ↔
      ∀ field : Field, ∃ value, field.inDocument fields = .ok value := by
  constructor
  · rintro ⟨s, hs⟩ field
    exact ⟨_, validate_eq_ok_iff.mp hs field⟩
  · intro h
    obtain ⟨s, hs⟩ := exists_check_eq_ok h
    exact ⟨s, Fallible.mapError_eq_ok_iff.mpr hs⟩

/-- Documents whose fields have the same values are read alike. -/
theorem validate_congr {fields others : List (RawText × Json)}
    (h : ∀ field : Field, Json.field? fields field.key = Json.field? others field.key) :
    validate (.object fields) = validate (.object others) := by
  rw [validate, validate, check_congr h]

/-! ### A document without its other fields -/

/-- What a document says of one field. -/
def Field.only (field : Field) (fields : List (RawText × Json)) : List (RawText × Json) :=
  fields.filter fun entry => entry.1 = field.key

section Only

variable (field other : Field) (fields : List (RawText × Json))

theorem field?_only_self :
    Json.field? (field.only fields) field.key = Json.field? fields field.key := by
  rw [Json.field?, Field.only, List.find?_filter]
  simp [Json.field?]

theorem field?_only_of_ne (h : other ≠ field) :
    Json.field? (field.only fields) other.key = none := by
  have hkey : other.key ≠ field.key := mt Field.key_inj.mp h
  rw [Json.field?, Option.map_eq_none_iff, List.find?_eq_none]
  intro entry hentry
  have hentry : entry.1 = field.key := by simpa using (List.mem_filter.mp hentry).2
  simpa [hentry] using hkey.symm

/-- Alone, a field is read as in the whole document, and every other field has its default. -/
theorem inDocument_only :
    other.inDocument (field.only fields) =
      if other = field then field.inDocument fields else .ok (defaults.value other) := by
  split
  · next h =>
    subst h
    rw [Field.inDocument_eq, Field.inDocument_eq, field?_only_self]
  · next h =>
    rw [Field.inDocument_eq, field?_only_of_ne field other fields h]

theorem exists_validate_only_iff :
    (∃ own, validate (.object (field.only fields)) = .ok own) ↔
      ∃ value, field.inDocument fields = .ok value := by
  rw [exists_validate_eq_ok_iff]
  simp only [inDocument_only]
  constructor
  · intro h
    simpa using h field
  · intro h other
    split
    · exact h
    · exact ⟨_, rfl⟩

theorem issuesOf_only :
    issuesOf (.object (field.only fields)) = (field.inDocument fields).issues := by
  rw [issuesOf_object, issues_check]
  simp only [inDocument_only]
  cases field <;> simp [Field.all]

theorem issuesOf_eq_flatMap :
    issuesOf (.object fields) =
      Field.all.flatMap fun field => issuesOf (.object (field.only fields)) := by
  rw [issuesOf_object, issues_check]
  simp only [issuesOf_only]

/-- What is wrong with a field alone is said of this field. -/
theorem place_of_issuesOf_only :
    ∀ issue ∈ issuesOf (.object (field.only fields)),
      issue.place.head? = some (.field field.name) := by
  intro issue hissue
  rw [issuesOf_only, Field.inDocument_eq] at hissue
  cases hraw : Json.field? fields field.key with
  | none => simp [hraw] at hissue
  | some raw =>
    rw [hraw] at hissue
    dsimp only at hissue
    rw [Checked.issues_under] at hissue
    obtain ⟨inner, -, rfl⟩ := List.mem_map.mp hissue
    rfl

end Only

/-! ### Items of a command -/

/-- What is wrong with an item of a command: it has to be a text. -/
def itemIssue (item : Json) (index : Nat) : Option Issue :=
  match item with
  | .text _ => none
  | item => some ⟨[.field Field.command.name, .item index], .string, item⟩

/-- One issue for each item that is no text, in the order of the items. -/
def itemIssues (items : List Json) : List Issue :=
  items.zipIdx.filterMap fun entry => itemIssue entry.1 entry.2

theorem issues_item (item : Json) (index : Nat) :
    ((Checked.ofRule Rule.rawText item).under (.item index)).issues.map
        (Issue.under (.field Field.command.name)) = (itemIssue item index).toList := by
  cases item <;> rfl

theorem issues_items (items : List Json) (start : Nat) :
    (Checked.all ((items.zipIdx start).map fun entry =>
      (Checked.ofRule Rule.rawText entry.1).under (.item entry.2))).issues.map
        (Issue.under (.field Field.command.name)) =
      (items.zipIdx start).filterMap fun entry => itemIssue entry.1 entry.2 := by
  rw [Checked.issues_all]
  induction items generalizing start with
  | nil => rfl
  | cons item rest ih =>
    rw [List.zipIdx_cons, List.map_cons, List.flatMap_cons, List.map_append, ih, issues_item,
      List.filterMap_cons]
    cases itemIssue item start <;> rfl

theorem issues_checkCommand {items : List Json} (h : items ≠ []) :
    ((checkCommand (.list items)).under (.field Field.command.name)).issues = itemIssues items := by
  rw [Checked.issues_under, itemIssues, ← issues_items, checkCommand]
  dsimp only
  split
  · next hwords =>
    cases items with
    | nil => exact absurd rfl h
    | cons item rest =>
      obtain ⟨_, -, hcons⟩ := Fallible.map_eq_ok_iff.mp hwords
      cases hcons
  · next hwords =>
    rw [hwords]
    rfl
  · next hwords =>
    rw [hwords]
    rfl

/-- A command of at least one item has one issue for each item that is no text. -/
theorem issuesOf_command {fields : List (RawText × Json)} {items : List Json}
    (h : Json.field? fields Field.command.key = some (.list items)) (hne : items ≠ []) :
    issuesOf (.object (Field.command.only fields)) = itemIssues items := by
  rw [issuesOf_only, Field.inDocument_eq, h, ← issues_checkCommand hne]
  dsimp only
  rw [Checked.issues_under, Checked.issues_under, Field.convert, Checked.issues_map]

/-! ### No refusal without an issue -/

section Reasons

variable {α β : Type}

theorem ofRule_ne_error_nil (rule : Json → Except Cause α) (raw : Json) :
    Checked.ofRule rule raw ≠ .error [] := by
  rw [Checked.ofRule]
  cases rule raw <;> simp

theorem map_ne_error_nil {x : Checked α} (h : x ≠ .error []) (f : α → β) :
    (x.map f : Checked β) ≠ .error [] := by
  cases x with
  | ok a => simp [Except.map]
  | error found => simpa [Except.map] using h

theorem under_ne_error_nil {x : Checked α} (h : x ≠ .error [])
    (step : Validation.Step) :
    x.under step ≠ .error [] := by
  cases x with
  | ok a => simp
  | error found => simpa [Checked.under] using h

theorem and_ne_error_nil {x : Checked α} {y : Checked β} (hx : x ≠ .error []) (hy : y ≠ .error []) :
    x.and y ≠ .error [] := by
  cases x <;> cases y <;> simp_all [Checked.and]

theorem all_ne_error_nil {xs : List (Checked α)} (h : ∀ x ∈ xs, x ≠ .error []) :
    Checked.all xs ≠ .error [] := by
  induction xs with
  | nil => simp [Checked.all]
  | cons x rest ih =>
    obtain ⟨hx, hrest⟩ := List.forall_mem_cons.mp h
    exact map_ne_error_nil (and_ne_error_nil hx (ih hrest)) _

end Reasons

theorem checkCommand_ne_error_nil (raw : Json) : checkCommand raw ≠ .error [] := by
  cases raw with
  | list items =>
    rw [checkCommand]
    dsimp only
    split
    · simp
    · simp
    · next found hfound =>
      rintro hnil
      cases Except.error.inj hnil
      refine all_ne_error_nil (fun x hx => ?_) hfound
      obtain ⟨entry, -, rfl⟩ := List.mem_map.mp hx
      exact under_ne_error_nil (ofRule_ne_error_nil _ _) _
  | _ => simp [checkCommand]

theorem convert_ne_error_nil (field : Field) (raw : Json) : field.convert raw ≠ .error [] := by
  cases field with
  | command => exact map_ne_error_nil (checkCommand_ne_error_nil raw) _
  | _ => exact map_ne_error_nil (ofRule_ne_error_nil _ raw) _

theorem inDocument_ne_error_nil (field : Field) (fields : List (RawText × Json)) :
    field.inDocument fields ≠ .error [] := by
  rw [Field.inDocument_eq]
  cases Json.field? fields field.key with
  | none => simp
  | some raw => exact under_ne_error_nil (convert_ne_error_nil field raw) _

/-- A field is acceptable alone just if nothing is wrong with it alone. -/
theorem issuesOf_only_eq_nil_iff (field : Field) (fields : List (RawText × Json)) :
    issuesOf (.object (field.only fields)) = [] ↔
      ∃ own, validate (.object (field.only fields)) = .ok own := by
  rw [issuesOf_only, exists_validate_only_iff]
  have hne := inDocument_ne_error_nil field fields
  cases hfield : field.inDocument fields with
  | ok value => simp
  | error found =>
    rw [hfield] at hne
    simpa using hne

/-! ### Another value for one field -/

section Change

variable {field other : Field} {fields : List (RawText × Json)} {raw : Json} {own : Settings}

/-- What a document says of the other fields stays. -/
theorem only_setField_of_ne (h : other ≠ field) :
    other.only (Json.setField field.key raw fields) = other.only fields := by
  have hkey : field.key ≠ other.key := fun hsame => h (Field.key_inj.mp hsame.symm)
  induction fields with
  | nil => simp [Json.setField, Field.only, hkey]
  | cons entry rest ih =>
    obtain ⟨name, value⟩ := entry
    rw [Json.setField]
    split
    · next hname => simp [Field.only, hname, hkey]
    · rw [Field.only, List.filter_cons, ← Field.only, ih, Field.only, Field.only, List.filter_cons]

theorem inDocument_setField_self (h : field.alone raw = .ok own) :
    field.inDocument (Json.setField field.key raw fields) = .ok (own.value field) := by
  rw [Field.inDocument_eq, Json.field?_setField_self]
  dsimp only
  rw [alone_eq_ok h, Checked.under_ok]

theorem value_setField_self (h : field.alone raw = .ok own) {s : Settings}
    (hs : validate (.object (Json.setField field.key raw fields)) = .ok s) :
    s.value field = own.value field := by
  have hfield := validate_eq_ok_iff.mp hs field
  rw [inDocument_setField_self h] at hfield
  exact (Except.ok.inj hfield).symm

theorem value_only {s : Settings} (hs : validate (.object fields) = .ok s) (field : Field) :
    ∃ own, validate (.object (field.only fields)) = .ok own ∧ s.value field = own.value field := by
  have hfield := validate_eq_ok_iff.mp hs field
  obtain ⟨own, hown⟩ := (exists_validate_only_iff field fields).mpr ⟨_, hfield⟩
  have halone := validate_eq_ok_iff.mp hown field
  rw [inDocument_only, if_pos rfl, hfield] at halone
  exact ⟨own, hown, Except.ok.inj halone⟩

/-- With an acceptable value for one field, the issues of this field are gone, and no others. -/
theorem issuesOf_setField (h : field.alone raw = .ok own) :
    issuesOf (.object (Json.setField field.key raw fields)) =
      (issuesOf (.object fields)).filter fun issue =>
        issue.place.head? ≠ some (.field field.name) := by
  rw [issuesOf_eq_flatMap, issuesOf_eq_flatMap fields, List.filter_flatMap]
  refine List.flatMap_congr fun other _ => ?_
  have hplace := place_of_issuesOf_only other fields
  -- Each issue of a field starts at this field, so the filter takes all of one field or none.
  by_cases hsame : other = field
  · subst hsame
    rw [issuesOf_only, inDocument_setField_self h, Checked.issues_ok]
    refine (List.filter_eq_nil_iff.mpr fun issue hissue => ?_).symm
    simp [hplace issue hissue]
  · rw [only_setField_of_ne hsame]
    refine (List.filter_eq_self.mpr fun issue hissue => ?_).symm
    have hname : other.name ≠ field.name := fun hname =>
      hsame (Field.key_inj.mp (congrArg RawText.ofString hname))
    simp [hplace issue hissue, hname]

end Change

/-! ### The whole document -/

/-- A document is accepted just if each field is acceptable alone, be it that the field is left out
and has its default. A field then has the value that it has alone, so that documents with the same
value for a field give the same setting; documents with the same values for all fields, whatever
else is in them, are read alike. A document that is refused has the issues that its fields have
alone, in the order of the fields: each of them at its field, none only where the field is
acceptable, and for a command of at least one item one for each item that is no text. An acceptable
value for one field takes away the issues of this field, and changes nothing of what the document
says of the others. -/
theorem validated_field_by_field (document : List (RawText × Json)) :
    ((∃ s, validate (.object document) = .ok s) ↔
      ∀ field : Field, ∃ own, validate (.object (field.only document)) = .ok own) ∧
    (∀ s, validate (.object document) = .ok s → ∀ field : Field,
      (∃ own, validate (.object (field.only document)) = .ok own ∧
        s.value field = own.value field) ∧
      (Json.field? document field.key = none → s.value field = defaults.value field) ∧
      ∀ other t, validate (.object other) = .ok t →
        Json.field? other field.key = Json.field? document field.key →
          t.value field = s.value field) ∧
    (∀ other, (∀ field : Field, Json.field? other field.key = Json.field? document field.key) →
      validate (.object other) = validate (.object document)) ∧
    (∀ refusal, validate (.object document) = .error refusal →
      refusal.issues = Field.all.flatMap fun field => issuesOf (.object (field.only document))) ∧
    (∀ field : Field,
      (issuesOf (.object (field.only document)) = [] ↔
        ∃ own, validate (.object (field.only document)) = .ok own) ∧
      ∀ issue ∈ issuesOf (.object (field.only document)),
        issue.place.head? = some (.field field.name)) ∧
    (∀ items, Json.field? document Field.command.key = some (.list items) → items ≠ [] →
      issuesOf (.object (Field.command.only document)) = itemIssues items) ∧
    ∀ (field : Field) (raw : Json) (own : Settings), field.alone raw = .ok own →
      let changed := Json.setField field.key raw document
      issuesOf (.object changed) = (issuesOf (.object document)).filter (fun issue =>
        issue.place.head? ≠ some (.field field.name)) ∧
      (∀ other : Field, other ≠ field → other.only changed = other.only document) ∧
      ∀ s, validate (.object changed) = .ok s →
        s.value field = own.value field ∧
        ∀ other : Field, other ≠ field →
          ∃ single, validate (.object (other.only document)) = .ok single ∧
            s.value other = single.value other := by
  refine ⟨?accepted, ?values, ?read, ?refused, ?reasons, ?items, ?changed⟩
  case accepted =>
    simp only [exists_validate_only_iff]
    exact exists_validate_eq_ok_iff
  case values =>
    intro s hs field
    have hfield := validate_eq_ok_iff.mp hs field
    refine ⟨value_only hs field, fun hnone => ?_, fun other t ht hsame => ?_⟩
    · rw [Field.inDocument_eq, hnone] at hfield
      exact (Except.ok.inj hfield).symm
    · have hother := validate_eq_ok_iff.mp ht field
      rw [Field.inDocument_eq, hsame, ← Field.inDocument_eq, hfield] at hother
      exact (Except.ok.inj hother).symm
  case read => exact fun other => validate_congr
  case refused =>
    intro refusal hrefusal
    rw [issuesOf_of_error hrefusal, issuesOf_eq_flatMap]
  case reasons =>
    intro field
    exact ⟨issuesOf_only_eq_nil_iff field document, place_of_issuesOf_only field document⟩
  case items => exact fun items => issuesOf_command
  case changed =>
    intro field raw own hown changed
    refine ⟨issuesOf_setField hown, fun other => only_setField_of_ne, fun s hs => ?_⟩
    refine ⟨value_setField_self hown hs, fun other hother => ?_⟩
    obtain ⟨single, hsingle, hvalue⟩ := value_only hs other
    rw [only_setField_of_ne hother] at hsingle
    exact ⟨single, hsingle, hvalue⟩

/-- The fields come in their own order, and the items of a command in theirs. -/
example :
    (issuesOf (.object [(.ofString "command", .list [.int 1, .text [], .null]),
      (.ofString "speed", .null), (.ofString "count", .int 0)])).map Issue.place =
        [[.field "count"], [.field "command", .item 0], [.field "command", .item 2]] := by
  rfl

end ClipCadence.Settings
