import ClipCadence.Proofs.Settings.History

/-!
How loading a file can fail. A user can mend a file that is missing, that is no JSON or that holds
values a run cannot use, and the error says so. Two stages have failures of another kind, which
no one mends by reading about the settings: bytes that are no UTF-8, and documents that the reader
gives up on, for the depth of their lists and objects or for the digits of an integer.

Main statement: `load_explained_iff`, just which files and paths load without such a failure.
`undecodable_file_unexplained` is a file that does not.
-/

namespace ClipCadence

open Text

/-! ### Paths -/

namespace Files.Tree

variable {tree : Tree} {path : Path}

/-- A path at which something stands can be walked. -/
theorem found?_eq_some {entry : Entry} (h : tree.found? path = some entry) :
    ∃ place, tree.find path = .ok place ∧ tree.entry? place = some entry := by
  unfold found? at h
  cases hfind : tree.find path with
  | error trouble => simp [hfind] at h
  | ok place => exact ⟨place, rfl, by simpa [hfind] using h⟩

theorem hasNul_of_find {place : Place} (h : tree.find path = .ok place) : path.hasNul = false := by
  obtain ⟨⟨⟩, hcheck, -⟩ := Fallible.bind_eq_ok_iff.mp h
  cases hnul : path.hasNul with
  | false => rfl
  | true => simp [checkPath, hnul] at hcheck

theorem isPresent_of_found {entry : Entry} (h : tree.found? path = some entry) :
    tree.isPresent path = .ok true := by
  obtain ⟨place, hfind, -⟩ := found?_eq_some h
  simp [isPresent, hfind, h]

theorem isPresent_of_not_found (h : tree.found? path = none) : tree.isPresent path ≠ .ok true := by
  unfold isPresent
  split
  · simp
  · simp [h]

theorem found?_of_present (h : tree.isPresent path = .ok true) :
    ∃ entry, tree.found? path = some entry := by
  cases hfound : tree.found? path with
  | some entry => exact ⟨entry, rfl⟩
  | none => exact absurd h (isPresent_of_not_found hfound)

theorem found?_of_missing (h : tree.isPresent path = .ok false) : tree.found? path = none := by
  cases hfound : tree.found? path with
  | some entry => cases (isPresent_of_found hfound).symm.trans h
  | none => rfl

theorem read_of_found {bytes : List UInt8} (shown : String)
    (h : tree.found? path = some (.file bytes)) : tree.read path shown = .ok bytes := by
  obtain ⟨place, hfind, hentry⟩ := found?_eq_some h
  have hmap : (tree.find path).mapError (FileError.mk · shown) = .ok place :=
    Fallible.mapError_eq_ok_iff.mpr hfind
  refine Fallible.bind_eq_ok_iff.mpr ⟨place, hmap, ?_⟩
  rw [hentry]
  rfl

end Files.Tree

namespace Settings

open Files

/-! ### What a user can mend -/

/-- Settings that a run can use, or an error that tells the user what to mend. -/
def Explained : Except LoadError Settings → Prop
  | .ok s => s.Usable
  | .error error => error.isConfiguration = true

/-- Bytes that the reader can judge: they are UTF-8, and it does not give up on the text. -/
def Judged (room : Json.Room) (bytes : List UInt8) : Prop :=
  ∃ text, Utf8.decode bytes = .ok text ∧
    ∀ error, Json.parse (normalEnds text) room = .error error →
      ∃ fault position, error = .malformed fault position

/-- Validating never fails in a way that the user cannot mend. -/
theorem validate_explained (source : Source) (json : Json) :
    Explained ((validate json).mapError (.refused source)) := by
  cases hvalid : validate json with
  | error refusal => exact rfl
  | ok s => exact validate_usable hvalid

variable {room : Json.Room}

theorem ofDocument_explained_iff {source : Source} {document : List Char} :
    Explained (ofDocument room source document) ↔
      ∀ error, Json.parse document room = .error error →
        ∃ fault position, error = .malformed fault position := by
  unfold ofDocument
  cases hparse : Json.parse document room with
  | ok json => simpa using validate_explained source json
  | error error =>
    cases error with
    | malformed fault position => simp [Explained, LoadError.isConfiguration]
    | tooDeep container => simp [Explained, LoadError.isConfiguration]
    | tooManyDigits digits => simp [Explained, LoadError.isConfiguration]

theorem ofBytes_explained_iff {source : Source} {bytes : List UInt8} :
    Explained (ofBytes room source bytes) ↔ Judged room bytes := by
  unfold Judged
  cases hdecode : Utf8.decode bytes with
  | error error =>
    have hfails : ofBytes room source bytes = .error (.encoding error) := by
      simp [ofBytes, hdecode, bind, Except.bind]
    simp [hfails, Explained, LoadError.isConfiguration]
  | ok text =>
    have hreads : ofBytes room source bytes = ofDocument room source (normalEnds text) := by
      simp [ofBytes, hdecode, bind, Except.bind]
    simp [hreads, ofDocument_explained_iff]

/-! ### Files and what is missing -/

section Paths

variable {tree : Tree} {path : Path}

theorem readSource_file {bytes : List UInt8} (h : tree.found? path = some (.file bytes)) :
    readSource room tree (.file path) = ofBytes room (.file path) bytes := by
  have hpresent : (Source.file path).isPresent tree = .ok true := Tree.isPresent_of_found h
  have hread : (Source.file path).read tree = .ok bytes := Tree.read_of_found path.text h
  rw [readSource, hpresent]
  show ((Source.file path).read tree).mapError LoadError.unreadable >>=
    ofBytes room (.file path) = _
  rw [hread]
  rfl

theorem readSource_missing (h : tree.isPresent path = .ok false) :
    readSource room tree (.file path) = .error (.notFound (.file path)) := by
  have hpresent : (Source.file path).isPresent tree = .ok false := h
  rw [readSource, hpresent]
  rfl

theorem readSource_unnameable {error : FileError} (h : tree.isPresent path = .error error) :
    readSource room tree (.file path) = .error (.unreadable error) := by
  have hpresent : (Source.file path).isPresent tree = .error error := h
  rw [readSource, hpresent]
  rfl

/-- With an empty store, loading a path reads it. -/
theorem load_of_empty {store : Store} (hstore : store.cache = []) (hnul : path.hasNul = false) :
    ((load tree (.file path)).run store).1.map Loaded.settings =
      readSource store.room tree (.file path) := by
  have hlookup (key : Source.Key) : store.lookup? key = none := by simp [Store.lookup?, hstore]
  have hkey : (Source.file path).key tree = .ok (.place (path.place tree.cwd)) := by
    simp [Source.key, hnul]
  rw [load_run, hkey]
  dsimp only
  rw [hlookup]
  cases readSource store.room tree (.file path) <;> rfl

theorem load_of_nul (store : Store) (hnul : path.hasNul = true) :
    ((load tree (.file path)).run store).1 = .error (.unreadable ⟨.nul, path.text⟩) := by
  have hkey : (Source.file path).key tree = .error ⟨.nul, path.text⟩ := by
    simp [Source.key, hnul]
  rw [load_run, hkey]

end Paths

/-- With an empty store, loading a file that is there is explained just if the reader can judge
its bytes, and loading from a path to nothing just if the path is one that could lead somewhere:
without a NUL, and not too long to ask for. -/
theorem load_explained_iff {tree : Tree} {path : Path} {store : Store} (hstore : store.cache = [])
    (hpath : tree.found? path ≠ some .directory) :
    Explained (((load tree (.file path)).run store).1.map Loaded.settings) ↔
      match tree.found? path with
      | some (.file bytes) => Judged store.room bytes
      | _ => path.hasNul = false ∧ tree.isPresent path = .ok false := by
  cases hfound : tree.found? path with
  | some entry =>
    cases entry with
    | directory => exact absurd hfound hpath
    | file bytes =>
      obtain ⟨place, hfind, -⟩ := Tree.found?_eq_some hfound
      rw [load_of_empty hstore (Tree.hasNul_of_find hfind), readSource_file hfound]
      exact ofBytes_explained_iff
  | none =>
    -- A path leads to nothing in three ways, of which the reader calls only the last one missing:
    -- there is a NUL in it, a name in it is too long, or nothing is there.
    dsimp only
    cases hnul : path.hasNul with
    | true => simp [load_of_nul store hnul, Explained, Except.map, LoadError.isConfiguration]
    | false =>
      rw [load_of_empty hstore hnul]
      cases hpresent : tree.isPresent path with
      | error error =>
        rw [readSource_unnameable hpresent]
        simp [Explained, LoadError.isConfiguration]
      | ok isPresent =>
        cases isPresent with
        | true => exact absurd hpresent (Tree.isPresent_of_not_found hfound)
        | false =>
          rw [readSource_missing hpresent]
          simp [Explained, LoadError.isConfiguration]

/-- A file with a byte that stands in no UTF-8 text is one that loads with an error that explains
nothing. -/
theorem undecodable_file_unexplained :
    ¬ ∀ (tree : Tree) (path : Path) (store : Store), store.cache = [] →
      tree.found? path ≠ some .directory →
      Explained (((load tree (.file path)).run store).1.map Loaded.settings) := by
  intro h
  let tree : Tree := ⟨[], [(["c.json"], .file [0xff])]⟩
  let path := Path.ofString "c.json"
  have hfile : tree.found? path = some (.file [0xff]) := by decide
  have hexplained := h tree path .empty rfl (by simp [hfile])
  rw [load_of_empty rfl (by decide), readSource_file hfile, ofBytes_explained_iff] at hexplained
  obtain ⟨text, hdecode, -⟩ := hexplained
  have hfails : (Utf8.decode [0xff]).toOption = none := by decide
  rw [hdecode] at hfails
  cases hfails

end Settings

end ClipCadence
