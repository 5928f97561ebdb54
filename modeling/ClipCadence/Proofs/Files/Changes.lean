import ClipCadence.Proofs.Settings.Loading

/-!
Changes of a tree. Making directories only puts directories where there was nothing, so every file
stays as it is. Writing a file changes one place, at which there is no directory, and the path it
was written through leads to that place afterwards. A place is found anew through its path, so a
path that leads nowhere yet may come to lead to a file that has been there all along, once the
directories on its way are made.

Main statements: `extends_makeDirectories` and `find_set`.
-/

namespace ClipCadence.Files.Tree

variable {tree made after : Tree} {path : Path} {place start : Place} {content : List UInt8}

/-! ### Entries -/

theorem find?_put (place other : Place) (entry : Entry) (entries : List (Place × Entry)) :
    ((put place entry entries).find? fun found => found.1 = other).map (·.2) =
      if other = place then some entry
      else (entries.find? fun found => found.1 = other).map (·.2) := by
  induction entries with
  | nil => by_cases h : other = place <;> simp [put, h, eq_comm]
  | cons first rest ih =>
    by_cases hplace : first.1 = place
    · by_cases h : other = place
      · simp [put, hplace, h]
      · simp [put, hplace, h, Ne.symm h]
    · by_cases hfirst : first.1 = other
      · have h : other ≠ place := hfirst ▸ hplace
        simp [put, hfirst, h]
      · simpa [put, hplace, hfirst] using ih

theorem entry?_set (hplace : place ≠ []) (entry : Entry) (other : Place) :
    Tree.entry? (tree.set place entry) other =
      if other = place then some entry else tree.entry? other := by
  by_cases hroot : other = []
  · rw [hroot, if_neg hplace.symm]
    rfl
  · unfold Tree.entry?
    rw [if_neg hroot, if_neg hroot]
    exact find?_put place other entry tree.entries

/-- The root is no place for anything but a directory. -/
theorem ne_nil_of_ne_directory (h : tree.entry? place ≠ some .directory) : place ≠ [] := by
  rintro rfl
  exact h (if_pos rfl)

/-- The content of the regular file at a place. -/
def file? (tree : Tree) (place : Place) : Option (List UInt8) :=
  match tree.entry? place with
  | some (.file content) => some content
  | _ => none

theorem file?_set (h : tree.entry? place ≠ some .directory) (content : List UInt8) :
    (tree.set place (.file content)).file? place = some content := by
  simp [file?, entry?_set (ne_nil_of_ne_directory h)]

theorem file?_set_of_ne (h : tree.entry? place ≠ some .directory) {other : Place}
    (hother : other ≠ place) :
    (tree.set place (.file content)).file? other = tree.file? other := by
  simp [file?, entry?_set (ne_nil_of_ne_directory h), hother]

/-! ### Ways -/

/-- The last step of a way. -/
theorem walk_concat_iff {parts : List String} {part : String} :
    tree.walk start (parts ++ [part]) = .ok place ↔
      ∃ above, tree.walk start parts = .ok above ∧ tree.next above part = .ok place ∧
        (tree.entry? place).isSome = true := by
  induction parts generalizing start with
  | nil =>
    simp only [List.nil_append, walk, Except.ok.injEq, exists_eq_left']
    cases tree.next start part with
    | error trouble => simp
    | ok next =>
      by_cases hentry : (tree.entry? next).isSome
      · have hnext : next = place → (tree.entry? place).isSome = true := fun h => h ▸ hentry
        simpa [hentry] using hnext
      · have hnext : next = place → ¬(tree.entry? place).isSome = true := fun h => h ▸ hentry
        simpa [hentry] using hnext
  | cons first rest ih =>
    simp only [List.cons_append, walk]
    cases tree.next start first with
    | error trouble => simp
    | ok next => by_cases hentry : (tree.entry? next).isSome <;> simp [hentry, ih]

theorem findNew?_eq_some_iff :
    tree.findNew? path = .ok (some place) ↔
      checkPath path = .ok () ∧
        ∃ above part, tree.walk (path.start tree.cwd) path.parts.dropLast = .ok above ∧
          path.parts.getLast? = some part ∧ tree.next above part = .ok place := by
  simp only [findNew?, Fallible.bind_eq_ok_iff]
  constructor
  · rintro ⟨⟨⟩, hcheck, above, hwalk, hlast⟩
    refine ⟨hcheck, above, ?_⟩
    split at hlast
    · cases hlast
    · next part hpart =>
      obtain ⟨found, hnext, hfound⟩ := Fallible.map_eq_ok_iff.mp hlast
      obtain rfl := Option.some.inj hfound
      exact ⟨part, hwalk, hpart, hnext⟩
  · rintro ⟨hcheck, above, part, hwalk, hpart, hnext⟩
    refine ⟨(), hcheck, above, hwalk, ?_⟩
    rw [hpart]
    exact Fallible.map_eq_ok_iff.mpr ⟨place, hnext, rfl⟩

/-- A path to a place for something new leads there as soon as there is something. -/
theorem find_of_findNew? (h : tree.findNew? path = .ok (some place))
    (hentry : (tree.entry? place).isSome = true) : tree.find path = .ok place := by
  obtain ⟨hcheck, above, part, hwalk, hpart, hnext⟩ := findNew?_eq_some_iff.mp h
  refine Fallible.bind_eq_ok_iff.mpr ⟨(), hcheck, ?_⟩
  obtain ⟨parts, hparts⟩ := List.getLast?_eq_some_iff.mp hpart
  rw [hparts, List.dropLast_concat] at hwalk
  rw [hparts]
  exact walk_concat_iff.mpr ⟨above, hwalk, hnext, hentry⟩

/-- Where a path leads there is no room for something new, unless it has no parts. -/
theorem findNew?_of_find (h : tree.find path = .ok place) :
    tree.findNew? path = .ok none ∨ tree.findNew? path = .ok (some place) := by
  obtain ⟨⟨⟩, hcheck, hwalk⟩ := Fallible.bind_eq_ok_iff.mp h
  rcases List.eq_nil_or_concat path.parts with hparts | ⟨parts, part, hparts⟩
  · left
    simp [findNew?, hcheck, hparts, walk, bind, Except.bind, pure, Except.pure]
  · right
    rw [hparts] at hwalk
    rw [List.concat_eq_append] at hparts hwalk
    obtain ⟨above, habove, hnext, -⟩ := walk_concat_iff.mp hwalk
    refine findNew?_eq_some_iff.mpr ⟨hcheck, above, part, ?_, ?_, hnext⟩
    · rw [hparts, List.dropLast_concat]
      exact habove
    · rw [hparts, List.getLast?_concat]

/-! ### Directories -/

/-- A tree after directories have been made where there was nothing. -/
structure Extends (tree made : Tree) : Prop where
  cwd : made.cwd = tree.cwd
  entries : ∀ place, made.entry? place = tree.entry? place ∨
    tree.entry? place = none ∧ made.entry? place = some .directory

theorem Extends.refl (tree : Tree) : Extends tree tree := ⟨rfl, fun _ => .inl rfl⟩

theorem Extends.trans (h : Extends tree made) (hafter : Extends made after) :
    Extends tree after where
  cwd := hafter.cwd.trans h.cwd
  entries place := by
    obtain hsame | ⟨hnone, hdirectory⟩ := hafter.entries place
    · rw [hsame]
      exact h.entries place
    · obtain hbefore | ⟨-, hfound⟩ := h.entries place
      · exact .inr ⟨hbefore ▸ hnone, hdirectory⟩
      · cases hnone.symm.trans hfound

theorem Extends.file? (h : Extends tree made) (place : Place) :
    made.file? place = tree.file? place := by
  unfold Tree.file?
  obtain hsame | ⟨hnone, hdirectory⟩ := h.entries place
  · rw [hsame]
  · rw [hnone, hdirectory]

theorem makeDirectory_eq_ok (h : tree.makeDirectory path = .ok made) :
    ∃ place, tree.findNew? path = .ok (some place) ∧ tree.entry? place = none ∧
      made = tree.set place .directory := by
  have h := Fallible.mapError_eq_ok_iff.mp h
  obtain ⟨found, hfind, h⟩ := Fallible.bind_eq_ok_iff.mp h
  split at h
  · cases h
  · next place =>
    split at h
    · cases h
    · next hentry =>
      exact ⟨place, hfind, Option.not_isSome_iff_eq_none.mp hentry, (Except.ok.inj h).symm⟩

theorem extends_makeDirectory (h : tree.makeDirectory path = .ok made) : Extends tree made := by
  obtain ⟨place, -, hnone, rfl⟩ := makeDirectory_eq_ok h
  refine ⟨rfl, fun other => ?_⟩
  have hempty : tree.entry? place ≠ some .directory := by simp [hnone]
  have hplace := ne_nil_of_ne_directory hempty
  rw [entry?_set hplace]
  split
  · next hother => exact .inr ⟨hother ▸ hnone, rfl⟩
  · exact .inl rfl

theorem extends_orPresent {result : Except FileError Tree}
    (hresult : ∀ made, result = .ok made → Extends tree made)
    (h : tree.orPresent path result = .ok made) : Extends tree made := by
  unfold orPresent at h
  split at h
  · split at h
    · rw [← Except.ok.inj h]
      exact .refl tree
    · cases h
  · exact hresult made h

theorem extends_makeDirectoriesFrom {fuel : Nat}
    (h : makeDirectoriesFrom fuel tree path = .ok made) : Extends tree made := by
  induction fuel generalizing path made with
  | zero =>
    unfold makeDirectoriesFrom at h
    split at h
    · contradiction
    · exact extends_orPresent (fun _ => extends_makeDirectory) h
  | succ fuel ih =>
    unfold makeDirectoriesFrom at h
    split at h
    · next hfuel =>
      obtain ⟨above, habove, hmade⟩ := Fallible.bind_eq_ok_iff.mp h
      cases hfuel
      exact (ih habove).trans (extends_orPresent (fun _ => extends_makeDirectory) hmade)
    · exact extends_orPresent (fun _ => extends_makeDirectory) h

/-- Making directories changes no file. -/
theorem extends_makeDirectories (h : tree.makeDirectories path = .ok made) : Extends tree made :=
  extends_makeDirectoriesFrom h

theorem makeDirectory_of_isDirectory (h : tree.isDirectory path = true) :
    tree.makeDirectory path = .error ⟨.exists, path.text⟩ := by
  obtain ⟨place, hfind, hentry⟩ := found?_eq_some (of_decide_eq_true h)
  unfold makeDirectory
  obtain hnew | hnew := findNew?_of_find hfind
  · rw [hnew]
    rfl
  · rw [hnew]
    simp [hentry, bind, Except.bind]

/-- A directory that is there already need not be made. -/
theorem makeDirectories_of_isDirectory (h : tree.isDirectory path = true) :
    tree.makeDirectories path = .ok tree := by
  unfold makeDirectories makeDirectoriesFrom
  rw [makeDirectory_of_isDirectory h]
  simp [orPresent, h]

/-! ### Files -/

theorem write_eq_ok {shown : String} (h : tree.write path shown content = .ok after) :
    ∃ place, tree.findNew? path = .ok (some place) ∧ tree.entry? place ≠ some .directory ∧
      after = tree.set place (.file content) := by
  have h := Fallible.mapError_eq_ok_iff.mp h
  obtain ⟨found, hfind, h⟩ := Fallible.bind_eq_ok_iff.mp h
  split at h
  · cases h
  · next place =>
    split at h
    · cases h
    · next hentry => exact ⟨place, hfind, hentry, (Except.ok.inj h).symm⟩

/-- A way passes through directories only, so a file that is written does not stand in it. -/
theorem next_set (h : tree.entry? place ≠ some .directory) {part : String} {found : Place}
    (hnext : tree.next start part = .ok found) :
    (tree.set place (.file content)).next start part = .ok found := by
  have hstart : tree.entry? start = some .directory := by
    unfold next at hnext
    split at hnext
    · assumption
    · cases hnext
    · cases hnext
  have hne : start ≠ place := by
    rintro rfl
    exact h hstart
  unfold next at hnext ⊢
  rw [entry?_set (ne_nil_of_ne_directory h), if_neg hne]
  exact hnext

theorem walk_set (h : tree.entry? place ≠ some .directory) {parts : List String} {found : Place}
    (hwalk : tree.walk start parts = .ok found) :
    (tree.set place (.file content)).walk start parts = .ok found := by
  induction parts generalizing start with
  | nil => exact hwalk
  | cons part rest ih =>
    rw [walk] at hwalk ⊢
    cases hnext : tree.next start part with
    | error trouble => simp [hnext] at hwalk
    | ok next =>
      simp only [hnext] at hwalk
      split at hwalk
      · next hentry =>
        let after := tree.set place (.file content)
        have hsome : (after.entry? next).isSome = true := by
          rw [entry?_set (ne_nil_of_ne_directory h)]
          split
          · rfl
          · exact hentry
        rw [next_set h hnext]
        dsimp only
        rw [if_pos hsome]
        exact ih hwalk
      · cases hwalk

theorem isDirectory_set (hdirectory : tree.isDirectory path = true)
    (h : tree.entry? place ≠ some .directory) :
    (tree.set place (.file content)).isDirectory path = true := by
  obtain ⟨found, hfind, hentry⟩ := found?_eq_some (of_decide_eq_true hdirectory)
  obtain ⟨⟨⟩, hcheck, hwalk⟩ := Fallible.bind_eq_ok_iff.mp hfind
  have hkept : (tree.set place (.file content)).find path = .ok found :=
    Fallible.bind_eq_ok_iff.mpr ⟨(), hcheck, walk_set h hwalk⟩
  have hne : found ≠ place := by
    rintro rfl
    exact h hentry
  have hfound : Tree.entry? (tree.set place (.file content)) found = some .directory := by
    rw [entry?_set (ne_nil_of_ne_directory h), if_neg hne, hentry]
  simp [isDirectory, found?, hkept, hfound]

/-- A file is found through the path it was written through. -/
theorem find_set (hnew : tree.findNew? path = .ok (some place))
    (h : tree.entry? place ≠ some .directory) :
    (tree.set place (.file content)).find path = .ok place := by
  refine find_of_findNew? ?_ (by simp [entry?_set (ne_nil_of_ne_directory h)])
  obtain ⟨hcheck, above, part, hwalk, hpart, hnext⟩ := findNew?_eq_some_iff.mp hnew
  exact findNew?_eq_some_iff.mpr
    ⟨hcheck, above, part, walk_set h hwalk, hpart, next_set h hnext⟩

theorem found?_set (hnew : tree.findNew? path = .ok (some place))
    (h : tree.entry? place ≠ some .directory) :
    (tree.set place (.file content)).found? path = some (.file content) := by
  unfold found?
  rw [find_set hnew h]
  simp [entry?_set (ne_nil_of_ne_directory h)]

/-- At the place of a path that leads nowhere there is nothing, if the way to it is open. -/
theorem entry?_of_not_found (hnew : tree.findNew? path = .ok (some place))
    (h : tree.found? path = none) : tree.entry? place = none := by
  cases hentry : tree.entry? place with
  | none => rfl
  | some entry =>
    have hfind := find_of_findNew? hnew (by simp [hentry])
    rw [found?, hfind] at h
    cases hentry.symm.trans h

end ClipCadence.Files.Tree
