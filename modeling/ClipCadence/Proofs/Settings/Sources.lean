import ClipCadence.Proofs.Json.Room
import ClipCadence.Proofs.Settings.Usable

/-!
Where the settings of a source come from. A path that can be walked leads to its place, so what is
read through a path is the content of the file at that place, and two paths of one place cannot
disagree about it. What a document says does not depend on the name under which it was read.

Main statements: `readSource_content`, what is read is the content of the file that the key of the
source names, and `readSource_builtin`, the built-in document holds the defaults.
-/

namespace ClipCadence

open Text Validation

/-! ### Paths and places -/

namespace Files.Tree

variable {tree : Tree} {path : Path} {place found : Place}

theorem next_eq {part : String} (h : tree.next place part = .ok found) :
    found = Path.step place part := by
  unfold next at h
  split at h
  · split at h
    · exact absurd h (by simp)
    · exact (Except.ok.inj h).symm
  · exact absurd h (by simp)
  · exact absurd h (by simp)

theorem walk_eq {parts : List String} (h : tree.walk place parts = .ok found) :
    found = parts.foldl Path.step place := by
  induction parts generalizing place with
  | nil => exact (Except.ok.inj h).symm
  | cons part rest ih =>
    rw [walk] at h
    cases hnext : tree.next place part with
    | error trouble => exact absurd h (by simp [hnext])
    | ok next =>
      simp only [hnext] at h
      split at h
      · rw [List.foldl_cons, ← next_eq hnext]
        exact ih h
      · exact absurd h (by simp)

/-- A path leads to its place, if it leads anywhere. -/
theorem find_eq (h : tree.find path = .ok found) : found = path.place tree.cwd := by
  obtain ⟨-, -, hwalk⟩ := Fallible.bind_eq_ok_iff.mp h
  exact walk_eq hwalk

theorem read_content {shown : String} {bytes : List UInt8}
    (h : tree.read path shown = .ok bytes) :
    tree.entry? (path.place tree.cwd) = some (.file bytes) := by
  obtain ⟨place, hfind, hentry⟩ := Fallible.bind_eq_ok_iff.mp h
  rw [← find_eq (Fallible.mapError_eq_ok_iff.mp hfind)]
  split at hentry
  · next hfile => rw [hfile, Except.ok.inj hentry]
  · exact absurd hentry (by simp)
  · exact absurd hentry (by simp)

end Files.Tree

/-! ### Documents -/

namespace Settings

open Files

variable {room : Json.Room}

theorem ofDocument_eq_ok_iff {source : Source} {document : List Char} {s : Settings} :
    ofDocument room source document = .ok s ↔
      ∃ json, Json.parse document room = .ok json ∧ validate json = .ok s := by
  unfold ofDocument
  cases hparse : Json.parse document room with
  | error error => cases error <;> simp
  | ok json => simp

/-- What a document says, read under any name. -/
theorem ofBytes_eq_ok_iff {source : Source} {bytes : List UInt8} {s : Settings} :
    ofBytes room source bytes = .ok s ↔
      ∃ text, Utf8.decode bytes = .ok text ∧
        ∃ json, Json.parse (normalEnds text) room = .ok json ∧ validate json = .ok s := by
  simp only [ofBytes, Fallible.bind_eq_ok_iff, Fallible.mapError_eq_ok_iff, ofDocument_eq_ok_iff]

/-- What is read with some room is read alike with more. -/
theorem ofBytes_more {more : Json.Room} (hmore : room.levels ≤ more.levels) {source : Source}
    {bytes : List UInt8} {s : Settings} (h : ofBytes room source bytes = .ok s) :
    ofBytes more source bytes = .ok s := by
  obtain ⟨text, htext, json, hparse, hvalid⟩ := ofBytes_eq_ok_iff.mp h
  exact ofBytes_eq_ok_iff.mpr ⟨text, htext, json, Json.parse_more hmore hparse, hvalid⟩

theorem ofBytes_usable {source : Source} {bytes : List UInt8} {s : Settings}
    (h : ofBytes room source bytes = .ok s) : s.Usable := by
  obtain ⟨-, -, json, -, hvalid⟩ := ofBytes_eq_ok_iff.mp h
  exact validate_usable hvalid

/-! ### Sources -/

/-- The content of the file that a key names. -/
def Source.Key.content? (tree : Tree) : Key → Option (List UInt8)
  | .builtin => some defaultFile
  | .place found =>
    match tree.entry? found with
    | some (.file bytes) => some bytes
    | _ => none

theorem Source.read_content {tree : Tree} {source : Source} {key : Key} {bytes : List UInt8}
    (hkey : source.key tree = .ok key) (h : source.read tree = .ok bytes) :
    key.content? tree = some bytes := by
  cases source with
  | builtin =>
    cases hkey
    cases h
    rfl
  | file path =>
    simp only [Source.key] at hkey
    split at hkey
    · cases hkey
    · cases hkey
      rw [Key.content?, Tree.read_content h]

theorem readSource_eq_ok {tree : Tree} {source : Source} {s : Settings}
    (h : readSource room tree source = .ok s) :
    ∃ bytes, source.read tree = .ok bytes ∧ ofBytes room source bytes = .ok s := by
  obtain ⟨isPresent, -, h⟩ := Fallible.bind_eq_ok_iff.mp h
  cases isPresent with
  | false => cases h
  | true =>
    obtain ⟨bytes, hread, hbytes⟩ := Fallible.bind_eq_ok_iff.mp h
    exact ⟨bytes, Fallible.mapError_eq_ok_iff.mp hread, hbytes⟩

theorem readSource_usable {tree : Tree} {source : Source} {s : Settings}
    (h : readSource room tree source = .ok s) : s.Usable := by
  obtain ⟨bytes, -, hbytes⟩ := readSource_eq_ok h
  exact ofBytes_usable hbytes

/-- What is read from a source is what the file that its key names holds at that time. -/
theorem readSource_content {tree : Tree} {source : Source} {key : Source.Key} {s : Settings}
    (hkey : source.key tree = .ok key) (h : readSource room tree source = .ok s) :
    ∃ bytes, key.content? tree = some bytes ∧ ofBytes room source bytes = .ok s := by
  obtain ⟨bytes, hread, hbytes⟩ := readSource_eq_ok h
  exact ⟨bytes, Source.read_content hkey hread, hbytes⟩

/-- The built-in document holds the defaults, for a reader with any room. -/
theorem readSource_builtin (room : Json.Room) (tree : Tree) :
    readSource room tree .builtin = .ok defaults := by
  have hleast : (ofBytes ⟨2, Nat.le_refl 2⟩ .builtin defaultFile).toOption = some defaults := by
    decide +kernel
  have hread : readSource room tree .builtin = ofBytes room .builtin defaultFile := by
    simp [readSource, Source.isPresent, Source.read, bind, Except.bind]
  rw [hread]
  exact ofBytes_more room.two_le (Fallible.toOption_eq_some_iff.mp hleast)

end Settings

end ClipCadence
