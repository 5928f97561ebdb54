import ClipCadence.Proofs.Settings.Loading

/-!
One file under several names. The store keeps settings under the place of a path, for which a double
dot undoes the part before it, whether or not that part is there; a file is read through the path as
it is spelled, every part of which must be a directory that exists. So as long as the files stay as
they are, the store and the files agree about every path that leads somewhere, and disagree about a
path to nothing just if another spelling of its place has been loaded.

Main statement: `stored_agrees_iff`. `spelling_of_stored_place` is a path about which they disagree.
-/

namespace ClipCadence.Settings

open Files Text

/-! ### Spellings of one place -/

section Spellings

variable {room : Json.Room} {tree : Tree} {source other : Source} {key : Source.Key}
  {s : Settings}

/-- What one spelling finds is found by every other spelling that leads somewhere. -/
theorem readSource_of_same_key (hkey : source.key tree = .ok key)
    (hother : other.key tree = .ok key) (hpresent : source.isPresent tree = .ok true)
    (hread : readSource room tree other = .ok s) :
    readSource room tree source = .ok s := by
  cases source with
  | builtin =>
    obtain rfl : .builtin = key := Except.ok.inj hkey
    obtain rfl : other = .builtin := source_eq_builtin hother
    exact hread
  | file path =>
    obtain ⟨bytes, hcontent, hbytes⟩ := readSource_content hother hread
    obtain ⟨entry, hfound⟩ := Tree.found?_of_present hpresent
    obtain ⟨place, hfind, hentry⟩ := Tree.found?_eq_some hfound
    rw [Tree.find_eq hfind] at hentry
    rw [Source.key] at hkey
    split at hkey
    · cases hkey
    · cases hkey
      -- The key names what stands at the path, and settings were found there: it is a file.
      rw [Source.Key.content?, hentry] at hcontent
      cases entry with
      | directory => cases hcontent
      | file content =>
        cases hcontent
        rw [readSource_file hfound, ofBytes_eq_ok_iff]
        exact ofBytes_eq_ok_iff.mp hbytes

/-- A path that leads nowhere is missing, or too long to be asked for. -/
theorem readSource_of_not_present (room : Json.Room) (h : source.isPresent tree ≠ .ok true) :
    ∃ error, readSource room tree source = .error error ∧
      (error = .notFound source ∨ ∃ found, error = .unreadable found) := by
  cases source with
  | builtin => exact absurd rfl h
  | file path =>
    have hpath : tree.isPresent path ≠ .ok true := h
    cases hpresent : tree.isPresent path with
    | error error => exact ⟨_, readSource_unnameable hpresent, .inr ⟨error, rfl⟩⟩
    | ok isPresent =>
      cases isPresent with
      | true => exact absurd hpresent hpath
      | false => exact ⟨_, readSource_missing hpresent, .inl rfl⟩

end Spellings

/-! ### Files that stay as they are -/

/-- A step that leaves the files as they are. -/
def Step.IsQuiet (step : Step) : Prop := ∀ tree, step ≠ .files tree

/-- A past in which all loads found the files as they are now. -/
def Past.Still (past : Past) : Prop := ∀ visit ∈ past.visits, visit.tree = past.tree

namespace Past

variable {past : Past} {user : Path}

theorem Still.visit (h : past.Still) (source : Source) : (past.visit source).Still := by
  intro visit hvisit
  rcases List.mem_append.mp hvisit with hearlier | hlast
  · exact h visit hearlier
  · rw [List.mem_singleton.mp hlast]
    rfl

theorem Still.visitActive (h : past.Still) : (past.visitActive user).Still := by
  unfold Past.visitActive
  split
  · exact h.visit _
  · exact h

/-- A quiet step keeps the files as all loads have found them. -/
theorem Still.after (h : past.Still) {step : Step} (hstep : step.IsQuiet) :
    (past.after user step).Still := by
  cases step with
  | files tree => exact absurd rfl (hstep tree)
  | load source => exact h.visit source
  | loadActive => exact h.visitActive
  | resolve path overrides =>
    cases path with
    | some path => exact h.visit (.file path)
    | none => exact h.visitActive
  | clear => exact fun visit hvisit => absurd hvisit (List.not_mem_nil)

theorem Still.afterAll (h : past.Still) {steps : List Step}
    (hsteps : ∀ step ∈ steps, step.IsQuiet) : (steps.foldl (Past.after user) past).Still := by
  induction steps generalizing past with
  | nil => exact h
  | cons step rest ih =>
    have hstep : (past.after user step).Still := h.after (hsteps step List.mem_cons_self)
    exact ih hstep fun later hlater => hsteps later (List.mem_cons_of_mem step hlater)

/-- Nothing is remembered when the store has just been cleared. -/
theorem still_play (room : Json.Room) (tree : Tree) (before : List Step) {quiet : List Step}
    (hquiet : ∀ step ∈ quiet, step.IsQuiet) :
    (play room user tree (before ++ .clear :: quiet)).Still := by
  rw [play, List.foldl_append, List.foldl_cons]
  refine Still.afterAll ?_ hquiet
  exact fun visit hvisit => absurd hvisit (List.not_mem_nil)

theorem Still.first?_eq_some (h : past.Still) {key : Source.Key} {s : Settings}
    (hfirst : past.first? key = some s) :
    ∃ other : Source, other.key past.tree = .ok key ∧
      readSource past.room past.tree other = .ok s := by
  obtain ⟨before, visit, later, hvisits, hfound, -⟩ := List.findSome?_eq_some_iff.mp hfirst
  obtain ⟨hkey, hread⟩ := Visit.settings?_eq_some hfound
  have htree : visit.tree = past.tree := h visit (by simp [hvisits])
  exact ⟨visit.source, htree ▸ hkey, htree ▸ hread⟩

variable {source : Source}

theorem load_unnamed {error : FileError} (hkey : source.key past.tree = .error error) :
    past.load source = .error (.unreadable error) := by
  rw [load, hkey]

theorem load_named {key : Source.Key} (hkey : source.key past.tree = .ok key) :
    past.load source =
      match past.first? key with
      | some settings => .ok settings
      | none => readSource past.room past.tree source := by
  rw [load]
  cases hfirst : past.first? key with
  | none => simp only [hkey, hfirst]
  | some settings => simp only [hkey, hfirst]

end Past

/-! ### The store and the files -/

/-- The same files, with nothing stored. -/
def Scene.fresh (scene : Scene) : Scene := { scene with store := .fresh scene.store.room }

theorem Scene.fresh_load (user : Path) (scene : Scene) (source : Source) :
    scene.fresh.outcome user (.load source) =
      some (match source.key scene.tree with
        | .error error => .error (.unreadable error)
        | .ok _ => readSource scene.store.room scene.tree source) := by
  have hagrees : Agrees ⟨scene.tree, [], scene.store.room⟩ scene.fresh := ⟨rfl, rfl, fun _ => rfl⟩
  exact hagrees.outcome (.load source)

/-- As long as the files stay as they are, loading a source after anything that has been loaded or
overridden since the store was cleared gives what loading it with an empty store does, just if the
source leads somewhere or nothing is stored under its key. If not, the path leads nowhere, which is
an error with an empty store, and loading it gives the settings of another spelling of its place. -/
theorem stored_agrees_iff (room : Json.Room) (user : Path) (tree : Tree)
    (before quiet : List Step) (hquiet : ∀ step ∈ quiet, step.IsQuiet) (source : Source) :
    let scene := Scene.play room user tree (before ++ .clear :: quiet)
    (scene.outcome user (.load source) = scene.fresh.outcome user (.load source) ↔
      source.isPresent scene.tree = .ok true ∨
        ∀ key, source.key scene.tree = .ok key → scene.store.lookup? key = none) ∧
    (scene.outcome user (.load source) ≠ scene.fresh.outcome user (.load source) →
      ∃ other key s error,
        source.key scene.tree = .ok key ∧ other.key scene.tree = .ok key ∧
        scene.outcome user (.load source) = some (.ok s) ∧
        scene.fresh.outcome user (.load other) = some (.ok s) ∧
        scene.fresh.outcome user (.load source) = some (.error error) ∧
        (error = .notFound source ∨ ∃ found, error = .unreadable found)) := by
  intro scene
  let past := Past.play room user tree (before ++ .clear :: quiet)
  have hagrees : Agrees past scene := .play room user tree (before ++ .clear :: quiet)
  have hstill : past.Still := Past.still_play room tree before hquiet
  have hload : scene.outcome user (.load source) = some (past.load source) := hagrees.outcome _
  rw [hload, Scene.fresh_load]
  cases hkey : source.key scene.tree with
  | error error => simp [Past.load_unnamed (hagrees.tree ▸ hkey)]
  | ok key =>
    have hentry := hagrees.entries key
    rw [Past.load_named (hagrees.tree ▸ hkey), ← hentry, ← hagrees.tree, ← hagrees.room]
    cases hlookup : scene.store.lookup? key with
    | none => simp [hlookup]
    | some loaded =>
      rw [hlookup] at hentry
      obtain ⟨other, hother, hread⟩ := hstill.first?_eq_some hentry.symm
      rw [← hagrees.tree] at hother hread
      rw [← hagrees.room] at hread
      by_cases hpresent : source.isPresent scene.tree = .ok true
      · have hsame := readSource_of_same_key hkey hother hpresent hread
        simp [hsame, hpresent]
      · obtain ⟨error, herror, hkind⟩ := readSource_of_not_present scene.store.room hpresent
        refine ⟨by simp [herror, hpresent, hlookup], fun _ => ?_⟩
        refine ⟨other, key, loaded.settings, error, rfl, hother, rfl, ?_, by rw [herror], hkind⟩
        rw [Scene.fresh_load, hother, ← hread]

/-- A file `a.json` and a directory `sub` beside it. -/
def twoSpellings : Tree := ⟨[], [(["a.json"], .file [0x7b, 0x7d]), (["sub"], .directory)]⟩

/-- A detour through a directory that exists makes no difference, whatever was loaded before. -/
theorem stored_agrees_through_directory :
    let user := Path.ofString "user.json"
    let quiet : List Step := [.load (.file (.ofString "missing/../a.json")),
      .load (.file (.ofString "a.json")), .loadActive,
      .resolve (some (.ofString "a.json")) [(.ofString "count", .int (-3))]]
    let source : Source := .file (.ofString "./sub/../a.json")
    let scene := Scene.play .usual user twoSpellings ([.load .builtin] ++ .clear :: quiet)
    (∀ step ∈ quiet, step.IsQuiet) ∧
      scene.outcome user (.load source) = scene.fresh.outcome user (.load source) := by
  intro user quiet source scene
  have hquiet : ∀ step ∈ quiet, step.IsQuiet := by simp [quiet, Step.IsQuiet]
  have hpresent : (source.isPresent scene.tree).toOption = some true := by decide +kernel
  refine ⟨hquiet, ?_⟩
  apply (stored_agrees_iff .usual user twoSpellings [.load .builtin] quiet hquiet source).1.mpr
  exact .inl (Fallible.toOption_eq_some_iff.mp hpresent)

/-- A detour through a directory that does not exist is no file, but it loads when the file without
the detour has been loaded. -/
theorem spelling_of_stored_place :
    ¬ ∀ (room : Json.Room) (user : Path) (tree : Tree) (before quiet : List Step) (path : Path),
      (∀ step ∈ quiet, step.IsQuiet) →
      let scene := Scene.play room user tree (before ++ .clear :: quiet)
      scene.outcome user (.load (.file path)) = scene.fresh.outcome user (.load (.file path)) := by
  intro h
  let stored := Path.ofString "a.json"
  let detour := Path.ofString "missing/../a.json"
  let scene := Scene.play .usual stored twoSpellings ([] ++ .clear :: [.load (.file stored)])
  have hloads : (scene.outcome stored (.load (.file detour))).any (·.toOption.isSome) = true := by
    decide +kernel
  have hfails : (scene.fresh.outcome stored (.load (.file detour))).any (·.toOption.isSome) =
      false := by
    decide +kernel
  have hagrees : scene.outcome stored (.load (.file detour)) =
      scene.fresh.outcome stored (.load (.file detour)) :=
    h .usual stored twoSpellings [] [.load (.file stored)] detour (by simp [Step.IsQuiet])
  rw [hagrees, hfails] at hloads
  cases hloads

end ClipCadence.Settings
