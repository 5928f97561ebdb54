import ClipCadence.Proofs.Json.RoundTrip
import ClipCadence.Proofs.Settings.Depth
import ClipCadence.Proofs.Settings.Loading
import ClipCadence.Proofs.Settings.Representable

/-!
Settings that are written to a file and loaded from it. The document that is written is one that is
read as it was written, apart from an infinite number, for which it has `null`; so the settings come
back as they were, or the document is refused.

Main statement: `shown_settings_load`.
-/

namespace ClipCadence

open Number Text

/-! ### Texts that can be encoded -/

theorem Unencodable.exists_ofChars {position : Nat} {text : RawText}
    (h : first? position text = none) : ∃ chars, text = .ofChars chars := by
  induction text generalizing position with
  | nil => exact ⟨[], rfl⟩
  | cons glyph text ih =>
    cases glyph with
    | half code => cases h
    | char c =>
      obtain ⟨chars, rfl⟩ := ih h
      exact ⟨c :: chars, rfl⟩

namespace Settings

open Files

/-! ### The document -/

/-- What a document has for a value: infinite numbers become `null`. -/
def written : Json → Json
  | .real x => if x.isFinite then .real x else .null
  | json => json

/-- The fields of the document of settings. -/
def writtenFields (s : Settings) : List (RawText × Json) :=
  Field.all.map fun field => (field.key, written (s.value field))

theorem value_written (level : Nat) (json : Json) :
    Json.Writer.value level (written json) = Json.Writer.value level json := by
  cases json with
  | real x =>
    rw [written, Json.Writer.value]
    split
    · next hfinite => rw [Json.Writer.value, if_pos hfinite]
    · rfl
  | _ => rfl

theorem document_eq (s : Settings) : s.document = (Json.object s.writtenFields).write := by
  have hfields : s.writtenFields.map (Json.fieldText (Json.Writer.value 1)) =
      s.toFields.map (Json.fieldText (Json.Writer.value 1)) := by
    simp only [writtenFields, toFields, List.map_map]
    refine List.map_congr_left fun field _ => ?_
    simp only [Function.comp_apply, Json.fieldText, value_written]
  simp only [document, toJson, Json.write, Json.Writer.value, Json.members_eq_map, hfields]

theorem document?_eq {s : Settings}
    (h : ∀ text ∈ s.texts, Unencodable.first? 0 text = none) : s.document? = .ok s.document := by
  rw [document?, List.findSome?_eq_none_iff.mpr h]

theorem legible_real (room : Nat) {x : Binary64} (h : x.IsDouble) :
    Json.Legible room (written (.real x)) := by
  rw [written]
  split
  · next hfinite => exact .real hfinite h
  · exact .null

theorem legible_text (room : Nat) {text : RawText} (h : Unencodable.first? 0 text = none) :
    Json.Legible room (.text text) := by
  obtain ⟨chars, rfl⟩ := Unencodable.exists_ofChars h
  exact .text

/-- The value of each field is read as it was written. -/
theorem legible_written {s : Settings} (hnumbers : s.Representable)
    (htexts : ∀ text ∈ s.texts, Unencodable.first? 0 text = none) (room : Nat) (field : Field) :
    Json.Legible (room + 1) (written (s.value field)) := by
  cases field with
  | count => exact .int hnumbers.count_length
  | delay => exact legible_real _ hnumbers.delay_isDouble
  | label => exact .text
  | backend =>
    rw [value]
    cases hbackend : s.backend with
    | none => exact .null
    | some text => exact legible_text _ (htexts text (by simp [texts, hbackend]))
  | command =>
    rw [value]
    cases hcommand : s.command with
    | none => exact .null
    | some words =>
      refine .list fun item hitem => ?_
      obtain ⟨word, hword, rfl⟩ := List.mem_map.mp hitem
      exact legible_text _ (htexts word (by simp [texts, hcommand, hword]))
  | skipFinalDelay => exact .bool
  | timeout => exact legible_real _ hnumbers.timeout_isDouble

/-- There is room for the words of a command in an object. -/
theorem legible_document {s : Settings} (hnumbers : s.Representable)
    (htexts : ∀ text ∈ s.texts, Unencodable.first? 0 text = none) (room : Json.Room) :
    Json.Legible room.levels (.object s.writtenFields) := by
  obtain ⟨more, hlevels⟩ : ∃ more, room.levels = more + 2 := Nat.exists_eq_add_of_le' room.two_le
  have hkeys : s.writtenFields.map Prod.fst = Field.all.map Field.key := by
    rw [writtenFields, List.map_map]
    rfl
  rw [hlevels]
  refine @Json.Legible.object (more + 1) _ ?_ ?_ ?_
  · rw [hkeys]
    decide
  · intro entry hentry
    obtain ⟨field, -, rfl⟩ := List.mem_map.mp hentry
    exact ⟨field.name.toList, rfl⟩
  · intro entry hentry
    obtain ⟨field, -, rfl⟩ := List.mem_map.mp hentry
    exact legible_written hnumbers htexts more field

/-! ### Reading it again -/

/-- The bytes of the document are read as what was written. -/
theorem ofBytes_document {s : Settings} (hnumbers : s.Representable)
    (htexts : ∀ text ∈ s.texts, Unencodable.first? 0 text = none) (room : Json.Room)
    (source : Source) :
    ofBytes room source (Utf8.encode s.document) =
      (validate (.object s.writtenFields)).mapError (.refused source) := by
  have hlegible := legible_document hnumbers htexts room
  have hends : normalEnds s.document = s.document := by
    rw [document_eq]
    exact normalEnds_of_notMem (hlegible.return_notMem 0)
  rw [ofBytes_encode, hends, ofDocument, document_eq, Json.parse_write hlegible]

theorem writtenFields_eq {s : Settings} (hdelay : s.delay.isFinite = true)
    (htimeout : s.timeout.isFinite = true) : s.writtenFields = s.toFields := by
  have hvalue (field : Field) : written (s.value field) = s.value field := by
    cases field with
    | delay => simp [value, written, hdelay]
    | timeout => simp [value, written, htimeout]
    | backend =>
      rw [value]
      cases s.backend <;> rfl
    | command =>
      rw [value]
      cases s.command <;> rfl
    | _ => rfl
  exact List.map_congr_left fun field _ => by rw [hvalue]

theorem field?_writtenFields (s : Settings) (field : Field) :
    Json.field? s.writtenFields field.key = some (written (s.value field)) := by
  cases field <;> rfl

/-- A time that is infinite is not given back as another. -/
theorem validate_writtenFields {s : Settings}
    (h : s.delay.isFinite = false ∨ s.timeout.isFinite = false) :
    ∃ refusal, validate (.object s.writtenFields) = .error refusal := by
  cases hvalid : validate (.object s.writtenFields) with
  | error refusal => exact ⟨refusal, rfl⟩
  | ok found =>
    have hcheck : check s.writtenFields = .ok found := Fallible.mapError_eq_ok_iff.mp hvalid
    have hfield (field : Field) :
        (field.convert (written (s.value field))).under (.field field.name) =
          .ok (found.value field) := by
      have hfound := inDocument_of_check hcheck field
      rwa [Field.inDocument_eq, field?_writtenFields] at hfound
    rcases h with hdelay | htimeout
    · have hnull : written (s.value .delay) = .null := by simp [value, written, hdelay]
      have hdelay := hfield .delay
      rw [hnull] at hdelay
      cases hdelay
    · have hnull : written (s.value .timeout) = .null := by simp [value, written, htimeout]
      have htimeout := hfield .timeout
      rw [hnull] at htimeout
      cases htimeout

theorem load_document {s : Settings} (husable : s.Usable) (hnumbers : s.Representable)
    (htexts : ∀ text ∈ s.texts, Unencodable.first? 0 text = none) {tree : Tree} {path : Path}
    {store : Store} (hfile : tree.found? path = some (.file (Utf8.encode s.document)))
    (hstore : store.cache = []) :
    let loaded := ((load tree (.file path)).run store).1.map Loaded.settings
    (s.delay.isFinite = true → s.timeout.isFinite = true → loaded = .ok s) ∧
      (s.delay.isFinite = false ∨ s.timeout.isFinite = false →
        ∃ refusal, loaded = .error (.refused (.file path) refusal)) := by
  intro loaded
  obtain ⟨place, hfind, -⟩ := Tree.found?_eq_some hfile
  have hloaded : loaded =
      (validate (.object s.writtenFields)).mapError (.refused (.file path)) := by
    rw [← ofBytes_document hnumbers htexts, ← readSource_file hfile]
    exact load_of_empty hstore (Tree.hasNul_of_find hfind)
  rw [hloaded]
  constructor
  · intro hdelay htimeout
    rw [writtenFields_eq hdelay htimeout]
    exact Fallible.mapError_eq_ok_iff.mpr (validate_toJson husable)
  · intro hinfinite
    obtain ⟨refusal, hrefused⟩ := validate_writtenFields hinfinite
    exact ⟨refusal, by rw [hrefused, Fallible.mapError_error]⟩

/-- Settings that a run can use, with numbers that can be written and texts that can be encoded, can
be shown; and a file with just that document, loaded with an empty store, gives the same settings.
If a time is infinite, for which a document has no number, the file is refused instead. All that is
loaded in a session has such numbers. -/
theorem shown_settings_load :
    (∀ s : Settings, s.Usable → s.Representable →
      (∀ text ∈ s.texts, Unencodable.first? 0 text = none) →
      ∃ document, s.document? = .ok document ∧
        ∀ (tree : Tree) (path : Path) (store : Store),
          tree.found? path = some (.file (Utf8.encode document)) → store.cache = [] →
          let loaded := ((load tree (.file path)).run store).1.map Loaded.settings
          (s.delay.isFinite = true → s.timeout.isFinite = true → loaded = .ok s) ∧
            (s.delay.isFinite = false ∨ s.timeout.isFinite = false →
              ∃ refusal, loaded = .error (.refused (.file path) refusal))) ∧
    ∀ (room : Json.Room) (user : Path) (tree : Tree) (steps : List Step) (path : Option Path)
      (s : Settings),
      let scene := Scene.play room user tree steps
      scene.answer (loadBase scene.tree user path) = .ok s → s.Usable ∧ s.Representable := by
  constructor
  · intro s husable hnumbers htexts
    exact ⟨s.document, document?_eq htexts,
      fun tree path store => load_document husable hnumbers htexts⟩
  · intro room user tree steps path s scene hbase
    have hagrees : Agrees (Past.play room user tree steps) scene := .play room user tree steps
    have hpast : (Past.play room user tree steps).loadBase user path = .ok s :=
      (hagrees.loadBase path).1.symm.trans hbase
    exact ⟨Past.loadBase_usable hpast,
      Past.loadBase_holds (fun _ _ _ _ => ofBytes_representable) hpast⟩

/-- Settings with a count of more than 64 bits, times that are no short binary fractions, and texts
with every kind of character that is escaped and some that look as if they were. -/
def awkwardSettings : Settings where
  count := 100000000000000000000
  delay := .ofDecimal false 1 (-1)
  label := "\"\\ /\x00\x08\x0c\n\r\t\x1f\x7f\u0085\u2028\ufeffé😀"
  backend := some (.ofString "")
  command := some [.ofString "\r\n", .ofString "\\u0041", .ofString "]\x7d,"]
  skipFinalDelay := true
  timeout := .ofDecimal false 5 (-324)

/-- They come back from the file that they are written to. -/
theorem awkward_settings_load :
    let tree : Tree := ⟨[], [(["c.json"], .file (Utf8.encode awkwardSettings.document))]⟩
    let path := Path.ofString "c.json"
    awkwardSettings.Usable ∧ awkwardSettings.Representable ∧
      (∀ text ∈ awkwardSettings.texts, Unencodable.first? 0 text = none) ∧
      ((load tree (.file path)).run .empty).1.map Loaded.settings = .ok awkwardSettings := by
  intro tree path
  have husable : awkwardSettings.Usable := by
    refine ⟨?_, ?_, ?_, ?_, ?_⟩ <;> decide +kernel
  have hnumbers : awkwardSettings.Representable := by
    refine ⟨by decide +kernel, ?_, ?_⟩ <;> dsimp only [awkwardSettings] <;>
      exact Binary64.isDouble_ofDecimal _ _ _
  have htexts : ∀ text ∈ awkwardSettings.texts, Unencodable.first? 0 text = none := by
    decide +kernel
  refine ⟨husable, hnumbers, htexts, ?_⟩
  obtain ⟨document, hdocument, hload⟩ := shown_settings_load.1 _ husable hnumbers htexts
  obtain rfl : awkwardSettings.document = document :=
    Except.ok.inj ((document?_eq htexts).symm.trans hdocument)
  exact (hload tree path .empty rfl rfl).1 (by decide +kernel) (by decide +kernel)

end Settings

end ClipCadence
