import ClipCadence.Proofs.Settings.Accepted

/-!
Overrides, field by field. Every field of a document is read on its own, so a document is described
by what each field makes of its value: `Field.convert`, with the result as a value of a document
again. A value that a field admits is converted to itself; so settings are read back from their own
fields, and reading them anew with overrides on top changes nothing but the fields with an override.

Main statement: `override_by_field`.
-/

namespace ClipCadence

open Number Text Validation

/-! ### Fields of a document -/

namespace Json

variable {fields : List (RawText × Json)} {key : RawText} {value : Json}

theorem mem_of_field? (h : field? fields key = some value) : (key, value) ∈ fields := by
  obtain ⟨⟨found, _⟩, hfind, rfl⟩ := Option.map_eq_some_iff.mp h
  obtain rfl : found = key := by simpa using List.find?_some hfind
  exact List.mem_of_find?_eq_some hfind

/-- In a map, what stands under a key is the value of the key. -/
theorem field?_of_mem (hmap : (fields.map Prod.fst).Nodup) (h : (key, value) ∈ fields) :
    field? fields key = some value := by
  induction fields with
  | nil => cases h
  | cons entry rest ih =>
    rw [List.map_cons, List.nodup_cons] at hmap
    rcases List.mem_cons.mp h with rfl | hrest
    · simp [field?]
    · have hne : entry.1 ≠ key := by
        rintro rfl
        exact hmap.1 (List.mem_map.mpr ⟨_, hrest, rfl⟩)
      simpa [field?, hne] using ih hmap.2 hrest

end Json

namespace Settings

open Files

theorem field?_merge {overrides : Overrides} (hmap : (overrides.map Prod.fst).Nodup)
    (fields : List (RawText × Json)) (key : RawText) :
    Json.field? (merge fields overrides) key =
      (Json.field? overrides key).or (Json.field? fields key) := by
  induction overrides generalizing fields with
  | nil => rfl
  | cons entry rest ih =>
    obtain ⟨name, raw⟩ := entry
    rw [List.map_cons, List.nodup_cons] at hmap
    have hmerge : merge fields ((name, raw) :: rest) = merge (Json.setField name raw fields) rest :=
      rfl
    rw [hmerge, ih hmap.2]
    by_cases hkey : key = name
    · subst hkey
      have hfirst : Json.field? ((key, raw) :: rest) key = some raw := by simp [Json.field?]
      have hlater : Json.field? rest key = none := by
        cases hfound : Json.field? rest key with
        | none => rfl
        | some value =>
          exact absurd (List.mem_map.mpr ⟨_, Json.mem_of_field? hfound, rfl⟩) hmap.1
      rw [hfirst, hlater, Json.field?_setField_self, Option.none_or, Option.some_or]
    · have hfirst : Json.field? ((name, raw) :: rest) key = Json.field? rest key := by
        simp [Json.field?, Ne.symm hkey]
      rw [hfirst, Json.field?_setField_of_ne raw fields hkey]

/-! ### What a field makes of a value -/

namespace Field

theorem key_inj {field other : Field} : field.key = other.key ↔ field = other := by
  constructor
  · cases field <;> cases other <;> decide
  · exact congrArg key

/-- The value of a field after its rule has been applied, as a value of a document. -/
def convert : Field → Json → Checked Json
  | .count, raw => (Checked.ofRule Rule.count raw).map fun n : Nat => .int n
  | .delay, raw => (Checked.ofRule Rule.delay raw).map .real
  | .label, raw => (Checked.ofRule Rule.label raw).map fun text => .text (.ofString text)
  | .backend, raw =>
    (Checked.ofRule Rule.backend raw).map fun text => (text.map Json.text).getD .null
  | .command, raw =>
    (checkCommand raw).map fun command =>
      (command.map fun words => Json.list (words.map Json.text)).getD .null
  | .skipFinalDelay, raw => (Checked.ofRule Rule.boolean raw).map .bool
  | .timeout, raw => (Checked.ofRule Rule.timeout raw).map .real

/-- The value of a field in the settings of a document, or what is wrong with it. -/
def inDocument (fields : List (RawText × Json)) : Field → Checked Json
  | .count =>
    (checkField .count defaults.count (.ofRule Rule.count) fields).map fun n : Nat => .int n
  | .delay => (checkField .delay defaults.delay (.ofRule Rule.delay) fields).map .real
  | .label =>
    (checkField .label defaults.label (.ofRule Rule.label) fields).map fun text =>
      .text (.ofString text)
  | .backend =>
    (checkField .backend defaults.backend (.ofRule Rule.backend) fields).map fun text =>
      (text.map Json.text).getD .null
  | .command =>
    (checkField .command defaults.command checkCommand fields).map fun command =>
      (command.map fun words => Json.list (words.map Json.text)).getD .null
  | .skipFinalDelay =>
    (checkField .skipFinalDelay defaults.skipFinalDelay (.ofRule Rule.boolean) fields).map .bool
  | .timeout => (checkField .timeout defaults.timeout (.ofRule Rule.timeout) fields).map .real

theorem map_checkField {α : Type} {field : Field} {default : α} {check : Json → Checked α}
    {write : α → Json} {fields : List (RawText × Json)}
    (hdefault : write default = defaults.value field)
    (hcheck : ∀ raw, (check raw).map write = field.convert raw) :
    (checkField field default check fields).map write =
      match Json.field? fields field.key with
      | none => .ok (defaults.value field)
      | some raw => (field.convert raw).under (.field field.name) := by
  rw [checkField]
  cases Json.field? fields field.key with
  | none => exact congrArg Except.ok hdefault
  | some raw =>
    dsimp only
    rw [← hcheck]
    cases check raw <;> rfl

/-- A field that the document leaves out has its default, any other what its value is converted
to. -/
theorem inDocument_eq (fields : List (RawText × Json)) (field : Field) :
    field.inDocument fields =
      match Json.field? fields field.key with
      | none => .ok (defaults.value field)
      | some raw => (field.convert raw).under (.field field.name) := by
  cases field <;> exact map_checkField rfl fun _ => rfl

end Field

/-! ### Documents -/

theorem check_eq_ok_iff_checkFields {fields : List (RawText × Json)} {s : Settings} :
    check fields = .ok s ↔
      checkField .count defaults.count (.ofRule Rule.count) fields = .ok s.count ∧
      checkField .delay defaults.delay (.ofRule Rule.delay) fields = .ok s.delay ∧
      checkField .label defaults.label (.ofRule Rule.label) fields = .ok s.label ∧
      checkField .backend defaults.backend (.ofRule Rule.backend) fields = .ok s.backend ∧
      checkField .command defaults.command checkCommand fields = .ok s.command ∧
      checkField .skipFinalDelay defaults.skipFinalDelay (.ofRule Rule.boolean) fields =
        .ok s.skipFinalDelay ∧
      checkField .timeout defaults.timeout (.ofRule Rule.timeout) fields = .ok s.timeout := by
  constructor
  · intro h
    obtain ⟨⟨count, delay, label, backend, command, skip, timeout⟩, hall, rfl⟩ :=
      Fallible.map_eq_ok_iff.mp h
    simpa only [Checked.and_eq_ok_iff] using hall
  · intro h
    refine Fallible.map_eq_ok_iff.mpr ⟨(s.count, s.delay, s.label, s.backend, s.command,
      s.skipFinalDelay, s.timeout), ?_, rfl⟩
    simpa only [Checked.and_eq_ok_iff] using h

theorem ofString_injective : Function.Injective RawText.ofString := by
  intro text other h
  simpa using congrArg RawText.toString? h

theorem text_getD_injective :
    Function.Injective fun text : Option RawText => (text.map Json.text).getD .null := by
  intro text other h
  cases text <;> cases other <;> simp_all

theorem words_getD_injective :
    Function.Injective fun command : Option (List RawText) =>
      (command.map fun words => Json.list (words.map Json.text)).getD .null := by
  intro command other h
  have hwords {words more : List RawText} :
      words.map Json.text = more.map Json.text ↔ words = more :=
    List.map_inj_right fun _ _ => Json.text.inj
  cases command <;> cases other <;> simp_all

/-- Settings with the same value in each field are the same. -/
theorem eq_of_value_eq {s other : Settings}
    (h : ∀ field : Field, s.value field = other.value field) : s = other := by
  have hcount : s.count = other.count := Int.ofNat.inj (Json.int.inj (h .count))
  have hdelay : s.delay = other.delay := Json.real.inj (h .delay)
  have hlabel : s.label = other.label := ofString_injective (Json.text.inj (h .label))
  have hbackend : s.backend = other.backend := text_getD_injective (h .backend)
  have hcommand : s.command = other.command := words_getD_injective (h .command)
  have hskip : s.skipFinalDelay = other.skipFinalDelay := Json.bool.inj (h .skipFinalDelay)
  have htimeout : s.timeout = other.timeout := Json.real.inj (h .timeout)
  cases s
  cases other
  simp_all

theorem inDocument_of_check {fields : List (RawText × Json)} {s : Settings}
    (h : check fields = .ok s) (field : Field) : field.inDocument fields = .ok (s.value field) := by
  obtain ⟨hcount, hdelay, hlabel, hbackend, hcommand, hskip, htimeout⟩ :=
    check_eq_ok_iff_checkFields.mp h
  cases field with
  | count => rw [Field.inDocument, hcount]; rfl
  | delay => rw [Field.inDocument, hdelay]; rfl
  | label => rw [Field.inDocument, hlabel]; rfl
  | backend => rw [Field.inDocument, hbackend]; rfl
  | command => rw [Field.inDocument, hcommand]; rfl
  | skipFinalDelay => rw [Field.inDocument, hskip]; rfl
  | timeout => rw [Field.inDocument, htimeout]; rfl

/-- No field stands in the way of another. -/
theorem exists_check_eq_ok {fields : List (RawText × Json)}
    (h : ∀ field : Field, ∃ value, field.inDocument fields = .ok value) :
    ∃ s, check fields = .ok s := by
  have hpart {α : Type} {x : Checked α} {write : α → Json} (h : ∃ v, x.map write = .ok v) :
      ∃ a, x = .ok a :=
    let ⟨_, hv⟩ := h
    let ⟨a, ha, _⟩ := Fallible.map_eq_ok_iff.mp hv
    ⟨a, ha⟩
  obtain ⟨count, hcount⟩ := hpart (h .count)
  obtain ⟨delay, hdelay⟩ := hpart (h .delay)
  obtain ⟨label, hlabel⟩ := hpart (h .label)
  obtain ⟨backend, hbackend⟩ := hpart (h .backend)
  obtain ⟨command, hcommand⟩ := hpart (h .command)
  obtain ⟨skip, hskip⟩ := hpart (h .skipFinalDelay)
  obtain ⟨timeout, htimeout⟩ := hpart (h .timeout)
  exact ⟨⟨count, delay, label, backend, command, skip, timeout⟩, check_eq_ok_iff_checkFields.mpr
    ⟨hcount, hdelay, hlabel, hbackend, hcommand, hskip, htimeout⟩⟩

/-- A document is read field by field. -/
theorem check_eq_ok_iff {fields : List (RawText × Json)} {s : Settings} :
    check fields = .ok s ↔ ∀ field : Field, field.inDocument fields = .ok (s.value field) := by
  refine ⟨inDocument_of_check, fun h => ?_⟩
  obtain ⟨other, hother⟩ := exists_check_eq_ok fun field => ⟨_, h field⟩
  have hsame : other = s := eq_of_value_eq fun field =>
    Except.ok.inj ((inDocument_of_check hother field).symm.trans (h field))
  rw [hother, hsame]

theorem issues_check (fields : List (RawText × Json)) :
    (check fields : Checked Settings).issues =
      Field.all.flatMap fun field => (field.inDocument fields).issues := by
  simp [check, Field.all, Field.inDocument]

theorem issues_of_validate {fields : List (RawText × Json)} {refusal : Refusal}
    (h : validate (.object fields) = .error refusal) :
    (check fields : Checked Settings).issues = refusal.issues := by
  rw [validate] at h
  cases hcheck : check fields with
  | ok s => simp [hcheck] at h
  | error issues =>
    rw [hcheck] at h
    exact congrArg Refusal.issues (Except.error.inj h)

/-- Other keys than those of the fields make no difference. -/
theorem check_congr {fields others : List (RawText × Json)}
    (h : ∀ field : Field, Json.field? fields field.key = Json.field? others field.key) :
    check fields = check others := by
  simp only [check, checkField, h]

/-! ### Values that are taken as they are -/

theorem checkCommand_of_words {words : List RawText} (h : words ≠ []) :
    checkCommand (.list (words.map Json.text)) = .ok (some words) := by
  have hall {check : Json × Nat → Checked RawText}
      (hcheck : ∀ word index, check (.text word, index) = .ok word) (start : Nat) :
      Checked.all (((words.map Json.text).zipIdx start).map check) = .ok words := by
    clear h
    induction words generalizing start with
    | nil => rfl
    | cons word rest ih =>
      rw [List.map_cons, List.zipIdx_cons, List.map_cons, Checked.all, hcheck, ih]
      rfl
  rw [checkCommand]
  dsimp only
  rw [hall fun _ _ => rfl]
  cases words with
  | nil => exact absurd rfl h
  | cons => rfl

theorem exists_words {items : List Json} (h : ∀ item ∈ items, ∃ text, item = .text text) :
    ∃ words : List RawText, items = words.map Json.text := by
  induction items with
  | nil => exact ⟨[], rfl⟩
  | cons item rest ih =>
    obtain ⟨text, rfl⟩ := h item List.mem_cons_self
    obtain ⟨words, rfl⟩ := ih fun other hother => h other (List.mem_cons_of_mem _ hother)
    exact ⟨text :: words, rfl⟩

/-- What a field admits, it takes as it is. -/
theorem Field.convert_of_admits {field : Field} {raw : Json} (h : field.Admits raw) :
    field.convert raw = .ok raw := by
  cases field <;> cases raw <;> try exact h.elim
  case count.int n =>
    have hpos : 1 ≤ n := h
    have hrule : Rule.count (.int n) = .ok n.toNat := if_pos hpos
    have hback : (n.toNat : Int) = n := Int.toNat_of_nonneg (by omega)
    rw [convert, Checked.ofRule, hrule]
    exact congrArg (fun n => Except.ok (Json.int n)) hback
  case delay.real x =>
    have hrule : Rule.delay (.real x) = .ok x := if_pos h.2
    rw [convert, Checked.ofRule, hrule]
    rfl
  case label.text text =>
    obtain ⟨first, rest, hchars⟩ := h
    have hrule : Rule.label (.text text) = .ok (String.ofList (first :: rest)) := by
      simp [Rule.label, Rule.rawText, Rule.chars, hchars, bind, Except.bind]
    have hback : RawText.ofString (String.ofList (first :: rest)) = text := by
      rw [RawText.ofString, String.toList_ofList, RawText.ofChars_of_chars? hchars]
    rw [convert, Checked.ofRule, hrule]
    exact congrArg (fun text => Except.ok (Json.text text)) hback
  case command.list items =>
    obtain ⟨hne, hitems⟩ := h
    obtain ⟨words, rfl⟩ := exists_words hitems
    rw [convert, checkCommand_of_words (by simpa using hne)]
    rfl
  case timeout.real x =>
    have hrule : Rule.timeout (.real x) = .ok x := if_pos h.2
    rw [convert, Checked.ofRule, hrule]
    rfl
  all_goals rfl

theorem field?_toFields (s : Settings) (field : Field) :
    Json.field? s.toFields field.key = some (s.value field) := by
  cases field <;> rfl

theorem inDocument_toFields {s : Settings} (h : s.Usable) (field : Field) :
    field.inDocument s.toFields = .ok (s.value field) := by
  rw [Field.inDocument_eq, field?_toFields]
  dsimp only
  rw [Field.convert_of_admits (h.admits field), Checked.under_ok]

/-- Usable settings are read back from the document of their fields. -/
theorem validate_toJson {s : Settings} (h : s.Usable) : validate s.toJson = .ok s := by
  rw [toJson, validate, check_eq_ok_iff.mpr (inDocument_toFields h)]
  rfl

/-! ### A field on its own -/

/-- The settings of a document in which a value is given to one field and to no other. -/
def Field.alone (field : Field) (raw : Json) : Except Refusal Settings :=
  validate (.object [(field.key, raw)])

theorem inDocument_alone (field : Field) (raw : Json) (other : Field) :
    other.inDocument [(field.key, raw)] =
      if field = other then (field.convert raw).under (.field field.name)
      else .ok (defaults.value other) := by
  rw [Field.inDocument_eq]
  by_cases h : field = other
  · subst h
    simp [Json.field?]
  · have hkey : field.key ≠ other.key := mt Field.key_inj.mp h
    simp [Json.field?, h, hkey]

section Alone

variable {field : Field} {raw : Json}

theorem alone_eq_ok {own : Settings} (h : field.alone raw = .ok own) :
    field.convert raw = .ok (own.value field) := by
  have hcheck : check [(field.key, raw)] = .ok own := Fallible.mapError_eq_ok_iff.mp h
  have hfield := inDocument_of_check hcheck field
  rw [inDocument_alone, if_pos rfl] at hfield
  exact Fallible.mapError_eq_ok_iff.mp hfield

theorem exists_alone_eq_ok_iff :
    (∃ own, field.alone raw = .ok own) ↔ ∃ value, field.convert raw = .ok value := by
  constructor
  · rintro ⟨own, hown⟩
    exact ⟨_, alone_eq_ok hown⟩
  · rintro ⟨value, hvalue⟩
    obtain ⟨own, hown⟩ : ∃ own, check [(field.key, raw)] = .ok own := by
      refine exists_check_eq_ok fun other => ?_
      rw [inDocument_alone, hvalue]
      split
      · exact ⟨value, rfl⟩
      · exact ⟨_, rfl⟩
    exact ⟨own, Fallible.mapError_eq_ok_iff.mpr hown⟩

/-- What is wrong with a document of one field is what is wrong with its value. -/
theorem issues_alone :
    (check [(field.key, raw)] : Checked Settings).issues =
      ((field.convert raw).under (.field field.name)).issues := by
  rw [issues_check]
  simp only [inDocument_alone]
  cases field <;> simp [Field.all]

end Alone

/-! ### Overrides of usable settings -/

theorem mem_given_iff {overrides : Overrides} {key : RawText} {raw : Json} :
    (key, raw) ∈ given overrides ↔ (key, raw) ∈ overrides ∧ raw ≠ .null := by
  have hgiven : isGiven raw = true ↔ raw ≠ .null := by cases raw <;> simp [isGiven]
  rw [given, List.mem_filter, hgiven]

section Override

variable {base : Settings} {overrides : Overrides}

theorem nodup_given (hmap : (overrides.map Prod.fst).Nodup) :
    ((given overrides).map Prod.fst).Nodup :=
  hmap.sublist (List.filter_sublist.map Prod.fst)

theorem field?_given_iff (hmap : (overrides.map Prod.fst).Nodup) {key : RawText} {raw : Json} :
    Json.field? (given overrides) key = some raw ↔ (key, raw) ∈ overrides ∧ raw ≠ .null := by
  rw [← mem_given_iff]
  exact ⟨Json.mem_of_field?, Json.field?_of_mem (nodup_given hmap)⟩

theorem inDocument_merge (hbase : base.Usable) (hmap : (overrides.map Prod.fst).Nodup)
    (field : Field) :
    field.inDocument (merge base.toFields (given overrides)) =
      match Json.field? (given overrides) field.key with
      | none => .ok (base.value field)
      | some raw => (field.convert raw).under (.field field.name) := by
  rw [Field.inDocument_eq, field?_merge (nodup_given hmap), field?_toFields]
  cases Json.field? (given overrides) field.key with
  | none =>
    rw [Option.none_or]
    dsimp only
    rw [Field.convert_of_admits (hbase.admits field), Checked.under_ok]
  | some raw => rfl

/-- Settings without overrides may be read anew as well: they are the same. -/
theorem override_eq (hbase : base.Usable) :
    override base overrides = validate (.object (merge base.toFields (given overrides))) := by
  rw [override]
  split
  · next hnone =>
    rw [hnone]
    exact (validate_toJson hbase).symm
  · rfl

theorem override_eq_ok_iff (hbase : base.Usable) {s : Settings} :
    override base overrides = .ok s ↔
      ∀ field : Field,
        field.inDocument (merge base.toFields (given overrides)) = .ok (s.value field) := by
  rw [override_eq hbase, ← check_eq_ok_iff]
  exact Fallible.mapError_eq_ok_iff

/-- An override is taken if its field takes it on its own, whatever the others are. -/
theorem exists_override_eq_ok_iff (hbase : base.Usable)
    (hmap : (overrides.map Prod.fst).Nodup) :
    (∃ s, override base overrides = .ok s) ↔
      ∀ (field : Field) (raw : Json), (field.key, raw) ∈ overrides → raw ≠ .null →
        ∃ own, field.alone raw = .ok own := by
  constructor
  · rintro ⟨s, hs⟩ field raw hmem hraw
    have hfield := (override_eq_ok_iff hbase).mp hs field
    rw [inDocument_merge hbase hmap, (field?_given_iff hmap).mpr ⟨hmem, hraw⟩] at hfield
    exact exists_alone_eq_ok_iff.mpr ⟨_, Fallible.mapError_eq_ok_iff.mp hfield⟩
  · intro h
    obtain ⟨s, hs⟩ : ∃ s, check (merge base.toFields (given overrides)) = .ok s := by
      refine exists_check_eq_ok fun field => ?_
      rw [inDocument_merge hbase hmap]
      cases hgiven : Json.field? (given overrides) field.key with
      | none => exact ⟨_, rfl⟩
      | some raw =>
        obtain ⟨hmem, hraw⟩ := (field?_given_iff hmap).mp hgiven
        obtain ⟨value, hvalue⟩ := exists_alone_eq_ok_iff.mp (h field raw hmem hraw)
        exact ⟨value, Fallible.mapError_eq_ok_iff.mpr hvalue⟩
    rw [override_eq hbase]
    exact ⟨s, Fallible.mapError_eq_ok_iff.mpr hs⟩

/-- A field with an override has the value that its override has on its own. -/
theorem value_of_overridden (hbase : base.Usable) (hmap : (overrides.map Prod.fst).Nodup)
    {s : Settings} (hs : override base overrides = .ok s) {field : Field} {raw : Json}
    (hmem : (field.key, raw) ∈ overrides) (hraw : raw ≠ .null) :
    ∃ own, field.alone raw = .ok own ∧ s.value field = own.value field := by
  have hfield := (override_eq_ok_iff hbase).mp hs field
  rw [inDocument_merge hbase hmap, (field?_given_iff hmap).mpr ⟨hmem, hraw⟩] at hfield
  have hconvert := Fallible.mapError_eq_ok_iff.mp hfield
  obtain ⟨own, hown⟩ := exists_alone_eq_ok_iff.mpr ⟨_, hconvert⟩
  refine ⟨own, hown, ?_⟩
  exact Except.ok.inj (hconvert.symm.trans (alone_eq_ok hown))

/-- A field without an override has the value of the base. -/
theorem value_of_not_overridden (hbase : base.Usable) (hmap : (overrides.map Prod.fst).Nodup)
    {s : Settings} (hs : override base overrides = .ok s) {field : Field}
    (hnone : ∀ raw, (field.key, raw) ∈ overrides → raw = .null) :
    s.value field = base.value field := by
  have hfield := (override_eq_ok_iff hbase).mp hs field
  have hgiven : Json.field? (given overrides) field.key = none := by
    cases hfound : Json.field? (given overrides) field.key with
    | none => rfl
    | some raw =>
      obtain ⟨hmem, hraw⟩ := (field?_given_iff hmap).mp hfound
      exact absurd (hnone raw hmem) hraw
  rw [inDocument_merge hbase hmap, hgiven] at hfield
  exact (Except.ok.inj hfield).symm

/-- What is wrong with the settings is wrong with an override on its own, and is said of its
field. -/
theorem issues_of_override (hbase : base.Usable) (hmap : (overrides.map Prod.fst).Nodup)
    {refusal : Refusal} (hs : override base overrides = .error refusal) {issue : Issue}
    (hissue : issue ∈ refusal.issues) :
    ∃ (field : Field) (raw : Json) (own : Refusal),
      (field.key, raw) ∈ overrides ∧ raw ≠ .null ∧ field.alone raw = .error own ∧
        issue ∈ own.issues ∧ issue.place.head? = some (.field field.name) := by
  rw [override_eq hbase] at hs
  rw [← issues_of_validate hs, issues_check] at hissue
  obtain ⟨field, -, hfield⟩ := List.mem_flatMap.mp hissue
  rw [inDocument_merge hbase hmap] at hfield
  cases hgiven : Json.field? (given overrides) field.key with
  | none => simp [hgiven] at hfield
  | some raw =>
    rw [hgiven] at hfield
    dsimp only at hfield
    obtain ⟨hmem, hraw⟩ := (field?_given_iff hmap).mp hgiven
    have hplace : issue.place.head? = some (.field field.name) := by
      rw [Checked.issues_under] at hfield
      obtain ⟨inner, -, rfl⟩ := List.mem_map.mp hfield
      rfl
    rw [← issues_alone] at hfield
    cases hown : field.alone raw with
    | error own =>
      exact ⟨field, raw, own, hmem, hraw, hown, issues_of_validate hown ▸ hfield, hplace⟩
    | ok own =>
      have hcheck : check [(field.key, raw)] = .ok own := Fallible.mapError_eq_ok_iff.mp hown
      simp [hcheck] at hfield

/-- The overrides of fields. -/
def knownOverrides (overrides : Overrides) : Overrides :=
  overrides.filter fun entry => Field.all.any fun field => field.key = entry.1

/-- Overrides under other names change nothing. -/
theorem override_known (hbase : base.Usable) (hmap : (overrides.map Prod.fst).Nodup) :
    override base (knownOverrides overrides) = override base overrides := by
  have hknown : ((knownOverrides overrides).map Prod.fst).Nodup :=
    hmap.sublist (List.filter_sublist.map Prod.fst)
  have hmem (field : Field) (raw : Json) :
      (field.key, raw) ∈ knownOverrides overrides ↔ (field.key, raw) ∈ overrides := by
    have hkey : (Field.all.any fun other => other.key = field.key) = true :=
      List.any_eq_true.mpr ⟨field, field.mem_all, by simp⟩
    simp [knownOverrides, List.mem_filter, hkey]
  rw [override_eq hbase, override_eq hbase, validate, validate, check_congr fun field => ?_]
  rw [field?_merge (nodup_given hknown), field?_merge (nodup_given hmap)]
  congr 1
  apply Option.ext
  intro raw
  rw [field?_given_iff hknown, field?_given_iff hmap, hmem]

end Override

/-! ### Overriding in a session -/

theorem Scene.outcome_resolve {user : Path} {scene : Scene} {path : Option Path} {base : Settings}
    (hbase : scene.answer (loadBase scene.tree user path) = .ok base) (overrides : Overrides) :
    scene.outcome user (.resolve path overrides) =
      some ((override base overrides).mapError .overrides) := by
  refine congrArg some ((resolve_settings ..).trans ?_)
  have hanswer : ((loadBase scene.tree user path).run scene.store).1.map Loaded.settings =
      .ok base := hbase
  rw [hanswer]
  rfl

/-- Whatever happened before, for every base that can be loaded and every map of overrides: the base
is what its own document says. Without a value other than `null` among the overrides the base itself
is given. In any case settings are given just if every override of a field is one that the field
takes on its own. They have in the fields with an override what the override alone makes of them,
and in the other fields what the base has; other names change nothing. If there is an error, each of
its issues is one of an override on its own, and stands at its field. -/
theorem override_by_field (room : Json.Room) (user : Path) (tree : Tree) (steps : List Step)
    (path : Option Path) (base : Settings) (overrides : Overrides)
    (hmap : (overrides.map Prod.fst).Nodup)
    (hbase : (Scene.play room user tree steps).answer
      (loadBase (Scene.play room user tree steps).tree user path) = .ok base) :
    let outcome := fun overrides =>
      (Scene.play room user tree steps).outcome user (.resolve path overrides)
    validate base.toJson = .ok base ∧
    ((∀ key raw, (key, raw) ∈ overrides → raw = .null) → outcome overrides = some (.ok base)) ∧
    ((∃ s, outcome overrides = some (.ok s)) ↔
      ∀ (field : Field) (raw : Json), (field.key, raw) ∈ overrides → raw ≠ .null →
        ∃ own, field.alone raw = .ok own) ∧
    (∀ s, outcome overrides = some (.ok s) → ∀ field : Field,
      (∀ raw, (field.key, raw) ∈ overrides → raw ≠ .null →
        ∃ own, field.alone raw = .ok own ∧ s.value field = own.value field) ∧
      ((∀ raw, (field.key, raw) ∈ overrides → raw = .null) → s.value field = base.value field)) ∧
    outcome (knownOverrides overrides) = outcome overrides ∧
    (∀ error, outcome overrides = some (.error error) →
      ∃ refusal, error = .overrides refusal ∧ ∀ issue ∈ refusal.issues,
        ∃ (field : Field) (raw : Json) (own : Refusal),
          (field.key, raw) ∈ overrides ∧ raw ≠ .null ∧ field.alone raw = .error own ∧
            issue ∈ own.issues ∧ issue.place.head? = some (.field field.name)) := by
  intro outcome
  have husable : base.Usable := by
    have hagrees : Agrees (Past.play room user tree steps) (Scene.play room user tree steps) :=
      .play room user tree steps
    exact Past.loadBase_usable ((hagrees.loadBase path).1.symm.trans hbase)
  have houtcome (overrides : Overrides) :
      outcome overrides = some ((override base overrides).mapError .overrides) :=
    Scene.outcome_resolve hbase overrides
  have hok {s : Settings} : outcome overrides = some (.ok s) ↔ override base overrides = .ok s := by
    rw [houtcome, Option.some_inj, Fallible.mapError_eq_ok_iff]
  refine ⟨validate_toJson husable, ?none, ?accepted, ?fields, ?unknown, ?refused⟩
  case none =>
    intro hnone
    have hgiven : given overrides = [] :=
      List.filter_eq_nil_iff.mpr fun entry hentry => by
        simp [hnone entry.1 entry.2 hentry, isGiven]
    rw [hok, override, hgiven]
  case accepted =>
    simp only [hok]
    exact exists_override_eq_ok_iff husable hmap
  case fields =>
    intro s hs field
    rw [hok] at hs
    exact ⟨fun raw => value_of_overridden husable hmap hs, value_of_not_overridden husable hmap hs⟩
  case unknown =>
    rw [houtcome, houtcome, override_known husable hmap]
  case refused =>
    intro error herror
    rw [houtcome, Option.some_inj] at herror
    cases hresult : override base overrides with
    | ok s => simp [hresult] at herror
    | error refusal =>
      rw [hresult, Fallible.mapError_error] at herror
      obtain rfl := Except.error.inj herror
      exact ⟨refusal, rfl, fun issue => issues_of_override husable hmap hresult⟩

/-- Values that are false, zero or of no other type than the setting count as overrides. -/
theorem falsy_overrides_by_field :
    let user := Path.ofString "user.json"
    let document := "\x7b\"count\": 3, \"label\": \"a\", \"skip_final_delay\": true\x7d".toList
    let tree : Tree := ⟨[], [(["c.json"], .file (Utf8.encode document))]⟩
    let path := some (Path.ofString "c.json")
    let base : Settings := { defaults with count := 3, label := "a", skipFinalDelay := true }
    let overrides : Overrides := [(.ofString "skip_final_delay", .bool false),
      (.ofString "delay", .real (.finite true 0)), (.ofString "label", .null),
      (.ofString "speed", .list [])]
    let scene := Scene.play .usual user tree []
    (overrides.map Prod.fst).Nodup ∧ scene.answer (loadBase scene.tree user path) = .ok base ∧
      ∀ s, scene.outcome user (.resolve path overrides) = some (.ok s) →
        s.value .label = base.value .label ∧
          ∃ own, Field.delay.alone (.real (.finite true 0)) = .ok own ∧
            s.value .delay = own.value .delay := by
  intro user document tree path base overrides scene
  have hmap : (overrides.map Prod.fst).Nodup := by decide
  have hbase : scene.answer (loadBase scene.tree user path) = .ok base :=
    Fallible.toOption_eq_some_iff.mp (by decide +kernel)
  refine ⟨hmap, hbase, fun s hs => ?_⟩
  have hoverride := override_by_field .usual user tree [] path base overrides hmap hbase
  have hfields := hoverride.2.2.2.1 s hs
  have hlabel : Json.field? overrides Field.label.key = some .null := rfl
  have hdelay : Json.field? overrides Field.delay.key = some (.real (.finite true 0)) := rfl
  refine ⟨(hfields .label).2 fun raw hraw => ?_, (hfields .delay).1 _ ?_ (by simp)⟩
  · rw [Json.field?_of_mem hmap hraw] at hlabel
    exact Option.some.inj hlabel
  · exact Json.mem_of_field? hdelay

end Settings

end ClipCadence
