import ClipCadence.Event.Payload
import ClipCadence.Proofs.Settings.History

/-!
What a session can rely on when it has been given settings. However they came about, from a file,
from the store or with overrides on top, the value of each field is one that a run can use, and the
texts that the events put on the clipboard can be encoded.

Main statement: `loaded_settings_fit`.
-/

namespace ClipCadence

open Number Text

/-! ### Texts that can be encoded -/

theorem Unencodable.first?_ofChars (position : Nat) (text : List Char) :
    first? position (.ofChars text) = none := by
  induction text generalizing position with
  | nil => rfl
  | cons c rest ih => exact ih (position + 1)

namespace Settings

open Files

/-! ### Values of fields -/

/-- The values that a run can use as the value of a field: at least one event; a delay and a time
for the tool that are numbers, with the right sign; a label of at least one character, and no half
of a surrogate pair among them; a command of at least one word. -/
def Field.Admits : Field → Json → Prop
  | .count, .int n => 1 ≤ n
  | .delay, .real x => x ≠ .nan ∧ x.isNonnegative = true
  | .label, .text text => ∃ first rest, text.chars? = some (first :: rest)
  | .backend, .null => True
  | .backend, .text _ => True
  | .command, .null => True
  | .command, .list words => words ≠ [] ∧ ∀ word ∈ words, ∃ text, word = .text text
  | .skipFinalDelay, .bool _ => True
  | .timeout, .real x => x ≠ .nan ∧ x.isPositive = true
  | _, _ => False

theorem ne_nan_of_isNonnegative {x : Binary64} (h : x.isNonnegative = true) : x ≠ .nan := by
  rintro rfl
  cases h

theorem Usable.admits {s : Settings} (h : s.Usable) (field : Field) :
    field.Admits (s.value field) := by
  cases field with
  | count => exact Int.ofNat_le.mpr h.count_pos
  | delay => exact ⟨ne_nan_of_isNonnegative h.delay_nonnegative, h.delay_nonnegative⟩
  | label =>
    have hne : s.label.toList ≠ [] := mt String.toList_eq_nil_iff.mp h.label_ne_empty
    obtain ⟨first, rest, hlabel⟩ := List.exists_cons_of_ne_nil hne
    refine ⟨first, rest, ?_⟩
    rw [RawText.ofString, RawText.chars?_ofChars, hlabel]
  | backend =>
    rw [value]
    cases s.backend <;> trivial
  | command =>
    have hne := h.command_ne_nil
    rw [value]
    cases hcommand : s.command with
    | none => trivial
    | some words =>
      rw [hcommand] at hne
      refine ⟨by simpa using hne, fun word hword => ?_⟩
      obtain ⟨text, -, rfl⟩ := List.mem_map.mp hword
      exact ⟨text, rfl⟩
  | skipFinalDelay => trivial
  | timeout =>
    have hnonnegative := Binary64.isNonnegative_of_isPositive h.timeout_positive
    exact ⟨ne_nan_of_isNonnegative hnonnegative, h.timeout_positive⟩

/-! ### Settings of a session -/

namespace Past

variable {past : Past} {user : Path} {s : Settings}

/-- What holds of all that is read from bytes holds of all that is loaded, be it stored or not. -/
theorem load_holds {P : Settings → Prop}
    (hread : ∀ room source bytes s, ofBytes room source bytes = .ok s → P s) {source : Source}
    (h : past.load source = .ok s) : P s := by
  unfold Past.load at h
  split at h
  · cases h
  · split at h
    · next hfirst =>
      obtain ⟨-, _, _, _, _, -, -, -, -, hbytes⟩ := first?_content hfirst
      exact Except.ok.inj h ▸ hread _ _ _ _ hbytes
    · obtain ⟨bytes, -, hbytes⟩ := readSource_eq_ok h
      exact hread past.room source bytes s hbytes

theorem loadBase_holds {P : Settings → Prop}
    (hread : ∀ room source bytes s, ofBytes room source bytes = .ok s → P s) {path : Option Path}
    (h : past.loadBase user path = .ok s) : P s := by
  cases path with
  | some path => exact load_holds hread h
  | none =>
    have hactive : past.loadActive user = .ok s := h
    unfold loadActive at hactive
    split at hactive
    · exact load_holds hread hactive
    · cases hactive

theorem load_usable {source : Source} (h : past.load source = .ok s) : s.Usable :=
  load_holds (fun _ _ _ _ => ofBytes_usable) h

theorem loadBase_usable {path : Option Path} (h : past.loadBase user path = .ok s) : s.Usable :=
  loadBase_holds (fun _ _ _ _ => ofBytes_usable) h

theorem outcome_usable {step : Step} (h : past.outcome user step = some (.ok s)) : s.Usable := by
  cases step with
  | files | clear => cases h
  | load source => exact load_usable (Option.some.inj h)
  | loadActive =>
    have hbase : past.loadBase user none = .ok s := Option.some.inj h
    exact loadBase_usable hbase
  | resolve path overrides =>
    obtain ⟨base, hbase, hs⟩ := Fallible.bind_eq_ok_iff.mp (Option.some.inj h)
    exact override_usable (loadBase_usable hbase) (Fallible.mapError_eq_ok_iff.mp hs)

end Past

theorem Scene.outcome_usable {room : Json.Room} {user : Path} {tree : Tree} {steps : List Step}
    {step : Step} {s : Settings}
    (h : (play room user tree steps).outcome user step = some (.ok s)) : s.Usable :=
  Past.outcome_usable (((Agrees.play room user tree steps).outcome step).symm.trans h)

/-- Whatever is in the files and whatever happened before: settings that are given have in each
field a value that a run can use, and each text that an event with their label puts on the clipboard
can be encoded, and is what the bytes say. -/
theorem loaded_settings_fit (room : Json.Room) (user : Path) (tree : Tree) (steps : List Step)
    (step : Step) (s : Settings)
    (h : (Scene.play room user tree steps).outcome user step = some (.ok s)) :
    (∀ field : Field, field.Admits (s.value field)) ∧
      ∀ index moment,
        let payload := Payload.text s.label index moment
        Unencodable.first? 0 (.ofString payload) = none ∧
          Utf8.decode (Utf8.encode payload.toList) = .ok payload.toList := by
  have husable : s.Usable := Scene.outcome_usable h
  refine ⟨husable.admits, fun index moment => ⟨?_, Utf8.decode_encode _⟩⟩
  exact Unencodable.first?_ofChars 0 _

/-- A document whose values are mostly of another type than the settings, and one of them given
twice. -/
def laxDocument : List Char :=
  "\x7b\"count\": NaN, \"count\": \"+0_7.0\", \"delay\": true, \"timeout\": 1e999, ".toList ++
    "\"label\": \"\\ud83d\\ude00\", \"command\": [\"tool\", \"\\ud800\"], ".toList ++
    "\"skip_final_delay\": 1.0\x7d".toList

def laxSettings : Settings where
  count := 7
  delay := .finite true 0
  label := "😀"
  backend := none
  command := some [.ofString "tool", [.half 0xd800]]
  skipFinalDelay := true
  timeout := .infinite false

/-- The settings of that document, with minus zero as the delay, are fit for a run. -/
theorem lax_settings_fit :
    let user := Path.ofString "user.json"
    let tree : Tree := ⟨[], [(["c.json"], .file (Utf8.encode laxDocument))]⟩
    let step : Step :=
      .resolve (some (.ofString "c.json")) [(.ofString "delay", .real (.finite true 0))]
    (Scene.play .usual user tree []).outcome user step = some (.ok laxSettings) ∧
      ∀ field : Field, field.Admits (laxSettings.value field) := by
  intro user tree step
  have houtcome : ((Scene.play .usual user tree []).outcome user step).bind Except.toOption =
      some laxSettings := by
    decide +kernel
  obtain ⟨result, hresult, hok⟩ := Option.bind_eq_some_iff.mp houtcome
  rw [Fallible.toOption_eq_some_iff.mp hok] at hresult
  exact ⟨hresult, (loaded_settings_fit .usual user tree [] step laxSettings hresult).1⟩

end Settings

end ClipCadence
