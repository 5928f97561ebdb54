import ClipCadence.Proofs.Settings.Sources

/-!
The store of settings and the past. What a store holds can be told from what has happened since it
was last cleared, without looking at the store: an entry is what the first successful load of its
key found in the file at that time. `Scene` is the files and the store as they are, `Past` the
files and the loads that were asked for; the two are kept in step by everything that can happen.
Overrides are no part of the past, so they cannot come back out of the store.

Main statement: `store_follows_past`, for all that can happen, in any order. A refused override
is the one failure after which the store may hold more than before: `refused_override_keeps_base`.
-/

namespace ClipCadence.Settings

open Files Text Validation

/-! ### What loading does to the store -/

section Store

variable (tree : Tree) (user : Path) (store : Store)

theorem lookup?_keep (key other : Source.Key) (source : Source) (s : Settings) :
    (store.keep key source s).lookup? other =
      if key = other then some ⟨store.made, s⟩ else store.lookup? other := by
  by_cases h : key = other <;> simp [Store.lookup?, Store.keep, h]

/-- What loading a source does, by what is stored under its key and what can be read. -/
theorem load_run (source : Source) :
    (load tree source).run store =
      match source.key tree with
      | .error error => (.error (.unreadable error), store)
      | .ok key =>
        match store.lookup? key with
        | some loaded => (.ok loaded, store)
        | none =>
          match readSource store.room tree source with
          | .error error => (.error error, store)
          | .ok s => (.ok ⟨store.made, s⟩, store.keep key source s) := by
  refine (Fallible.run_bind_ok (s := store) (a := store) rfl).trans ?_
  cases hkey : source.key tree with
  | error error => rfl
  | ok key =>
    refine (Fallible.run_bind_ok (s := store) (a := key) rfl).trans ?_
    dsimp only
    cases store.lookup? key with
    | some loaded => rfl
    | none => cases readSource store.room tree source <;> rfl

theorem loadActive_run :
    (loadActive tree user).run store =
      match activeSource tree user with
      | .error error => (.error (.unreadable error), store)
      | .ok source => (load tree source).run store := by
  unfold loadActive
  cases activeSource tree user <;> rfl

/-- Loading what overrides are to be put on. -/
def loadBase : Option Path → Loading Loaded
  | some path => load tree (.file path)
  | none => loadActive tree user

theorem resolve_run (path : Option Path) (overrides : Overrides) :
    (resolve tree user path overrides).run store =
      match (loadBase tree user path).run store with
      | (.error error, store) => (.error error, store)
      | (.ok base, store) =>
        match given overrides with
        | [] => (.ok base, store)
        | _ =>
          match override base.settings overrides with
          | .error refusal => (.error (.overrides refusal), store)
          | .ok s => (.ok ⟨store.made, s⟩, { store with made := store.made + 1 }) := by
  have hbase : resolve tree user path overrides = (loadBase tree user path >>= fun base =>
      match given overrides with
      | [] => return base
      | _ =>
        match override base.settings overrides with
        | .error refusal => throw (.overrides refusal)
        | .ok settings => do
          let store ← get
          set { store with made := store.made + 1 }
          return ⟨store.made, settings⟩) := by
    cases path <;> rfl
  rw [hbase]
  rcases hrun : (loadBase tree user path).run store with ⟨_ | base, after⟩
  · exact Fallible.run_bind_error hrun
  · refine (Fallible.run_bind_ok hrun).trans ?_
    dsimp only
    cases given overrides with
    | nil => rfl
    | cons => cases override base.settings overrides <;> rfl

/-- The settings that overriding gives are those of the base with the overrides on top. -/
theorem resolve_settings (path : Option Path) (overrides : Overrides) :
    ((resolve tree user path overrides).run store).1.map Loaded.settings =
      (((loadBase tree user path).run store).1.map Loaded.settings >>= fun base =>
        (override base overrides).mapError .overrides) := by
  rw [resolve_run]
  rcases (loadBase tree user path).run store with ⟨_ | base, after⟩
  · rfl
  · cases hgiven : given overrides with
    | nil =>
      have hkept : override base.settings overrides = .ok base.settings := by
        rw [override, hgiven]
      show Except.ok base.settings = (override base.settings overrides).mapError LoadError.overrides
      rw [hkept]
      rfl
    | cons =>
      show _ = (override base.settings overrides).mapError LoadError.overrides
      dsimp only
      cases override base.settings overrides <;> rfl

/-- Overriding leaves the store as loading the base does, but for the number of settings made,
whether or not the overrides are refused. -/
theorem resolve_store (path : Option Path) (overrides : Overrides) :
    ∃ made, ((resolve tree user path overrides).run store).2 =
      { ((loadBase tree user path).run store).2 with made := made } := by
  rw [resolve_run]
  rcases (loadBase tree user path).run store with ⟨_ | base, after⟩
  · exact ⟨after.made, rfl⟩
  · dsimp only
    cases given overrides with
    | nil => exact ⟨after.made, rfl⟩
    | cons =>
      cases override base.settings overrides with
      | error refusal => exact ⟨after.made, rfl⟩
      | ok s => exact ⟨after.made + 1, rfl⟩

theorem resolve_cache (path : Option Path) (overrides : Overrides) :
    ((resolve tree user path overrides).run store).2.cache =
      ((loadBase tree user path).run store).2.cache := by
  obtain ⟨made, hstore⟩ := resolve_store tree user store path overrides
  rw [hstore]

variable {tree user store}

theorem load_error {source : Source} {error : LoadError}
    (h : ((load tree source).run store).1 = .error error) :
    ((load tree source).run store).2 = store := by
  rw [load_run] at h ⊢
  cases hkey : source.key tree with
  | error => rfl
  | ok key =>
    cases hlookup : store.lookup? key with
    | some => simp only [hlookup]
    | none =>
      cases hread : readSource store.room tree source with
      | error => simp only [hlookup]
      | ok => simp [hkey, hlookup, hread] at h

theorem loadActive_error {error : LoadError}
    (h : ((loadActive tree user).run store).1 = .error error) :
    ((loadActive tree user).run store).2 = store := by
  rw [loadActive_run] at h ⊢
  cases hactive : activeSource tree user with
  | error => rfl
  | ok source =>
    rw [hactive] at h
    exact load_error h

end Store

/-! ### What can happen -/

/-- One thing that happens to the files and the store of a session. -/
inductive Step where
  /-- The files and directories are changed, in whatever way, and are those of the tree from now
  on. -/
  | files (tree : Tree)
  | load (source : Source)
  | loadActive
  | resolve (path : Option Path) (overrides : Overrides)
  | clear

/-- The step without its overrides. -/
def Step.bare : Step → Step
  | .resolve path _ => .resolve path []
  | step => step

/-- The files and the store. -/
structure Scene where
  tree : Tree
  store : Store

namespace Scene

/-- The settings that a loading gives, or its error. -/
def answer (scene : Scene) (loading : Loading Loaded) : Except LoadError Settings :=
  (loading.run scene.store).1.map Loaded.settings

def perform (scene : Scene) (loading : Loading Loaded) : Scene :=
  { scene with store := (loading.run scene.store).2 }

/-- What a step gives, if it loads anything. The user's file is the one at the path. -/
def outcome (user : Path) (scene : Scene) : Step → Option (Except LoadError Settings)
  | .load source => some (scene.answer (Settings.load scene.tree source))
  | .loadActive => some (scene.answer (Settings.loadActive scene.tree user))
  | .resolve path overrides =>
    some (scene.answer (Settings.resolve scene.tree user path overrides))
  | .files _ | .clear => none

def after (user : Path) (scene : Scene) : Step → Scene
  | .files tree => { scene with tree := tree }
  | .load source => scene.perform (Settings.load scene.tree source)
  | .loadActive => scene.perform (Settings.loadActive scene.tree user)
  | .resolve path overrides => scene.perform (Settings.resolve scene.tree user path overrides)
  | .clear => { scene with store := scene.store.clear }

/-- The scene after some steps, the first of which finds an empty store, and a reader with some
room. -/
def play (room : Json.Room) (user : Path) (tree : Tree) (steps : List Step) : Scene :=
  steps.foldl (after user) ⟨tree, .fresh room⟩

end Scene

/-! ### The past -/

/-- A load that was asked for, with the files at that time. -/
structure Visit where
  tree : Tree
  source : Source

/-- The settings that a load of a key finds in the files, if it is one and does not fail. -/
def Visit.settings? (room : Json.Room) (key : Source.Key) (visit : Visit) : Option Settings :=
  match visit.source.key visit.tree with
  | .ok found => if found = key then (readSource room visit.tree visit.source).toOption else none
  | .error _ => none

/-- The files, and the loads since the store was last cleared, the first one first; and the room
that the reader has for all of them. -/
structure Past where
  tree : Tree
  visits : List Visit
  room : Json.Room

namespace Past

/-- What the first successful load of a key found. -/
def first? (past : Past) (key : Source.Key) : Option Settings :=
  past.visits.findSome? (Visit.settings? past.room key)

def visit (past : Past) (source : Source) : Past :=
  { past with visits := past.visits ++ [⟨past.tree, source⟩] }

def visitActive (user : Path) (past : Past) : Past :=
  match activeSource past.tree user with
  | .ok source => past.visit source
  | .error _ => past

def visitBase (user : Path) (past : Past) : Option Path → Past
  | some path => past.visit (.file path)
  | none => past.visitActive user

def after (user : Path) (past : Past) : Step → Past
  | .files tree => { past with tree := tree }
  | .load source => past.visit source
  | .loadActive => past.visitActive user
  | .resolve path _ => past.visitBase user path
  | .clear => { past with visits := [] }

def play (room : Json.Room) (user : Path) (tree : Tree) (steps : List Step) : Past :=
  steps.foldl (after user) ⟨tree, [], room⟩

/-- The settings of a source: what the first successful load of its key found, and what is in the
file now if there was none. -/
def load (past : Past) (source : Source) : Except LoadError Settings :=
  match source.key past.tree with
  | .error error => .error (.unreadable error)
  | .ok key =>
    match past.first? key with
    | some settings => .ok settings
    | none => readSource past.room past.tree source

/-- The settings of the user's file if it exists, and the built-in ones if it does not. -/
def loadActive (user : Path) (past : Past) : Except LoadError Settings :=
  match activeSource past.tree user with
  | .ok source => past.load source
  | .error error => .error (.unreadable error)

def loadBase (user : Path) (past : Past) : Option Path → Except LoadError Settings
  | some path => past.load (.file path)
  | none => past.loadActive user

def outcome (user : Path) (past : Past) : Step → Option (Except LoadError Settings)
  | .load source => some (past.load source)
  | .loadActive => some (past.loadActive user)
  | .resolve path overrides => some do
    let base ← past.loadBase user path
    (override base overrides).mapError .overrides
  | .files _ | .clear => none

/-- A visit counts for its key if no earlier one does. -/
theorem first?_visit (past : Past) (source : Source) (key : Source.Key) :
    (past.visit source).first? key =
      (past.first? key).or (Visit.settings? past.room key ⟨past.tree, source⟩) := by
  simp [first?, visit, List.findSome?_append]

section Visits

variable {past : Past} {source : Source} {key : Source.Key} {s : Settings}

theorem first?_visit_unnamed {error : FileError} (hkey : source.key past.tree = .error error) :
    (past.visit source).first? = past.first? := by
  funext other
  simp [first?_visit, Visit.settings?, hkey]

theorem first?_visit_found (hkey : source.key past.tree = .ok key)
    (hfirst : past.first? key = some s) : (past.visit source).first? = past.first? := by
  funext other
  rw [first?_visit]
  by_cases hsame : key = other
  · subst hsame
    rw [hfirst, Option.some_or]
  · simp [Visit.settings?, hkey, hsame]

theorem first?_visit_failed {error : LoadError} (hkey : source.key past.tree = .ok key)
    (hread : readSource past.room past.tree source = .error error) :
    (past.visit source).first? = past.first? := by
  funext other
  simp [first?_visit, Visit.settings?, hkey, hread, Except.toOption]

theorem first?_visit_read (hkey : source.key past.tree = .ok key)
    (hfirst : past.first? key = none) (hread : readSource past.room past.tree source = .ok s)
    (other : Source.Key) :
    (past.visit source).first? other = if key = other then some s else past.first? other := by
  rw [first?_visit]
  by_cases hsame : key = other
  · subst hsame
    simp [hfirst, Visit.settings?, hkey, hread, Except.toOption]
  · simp [Visit.settings?, hkey, hsame]

end Visits

/-- Overrides leave no trace in the past. -/
theorem play_bare (room : Json.Room) (user : Path) (tree : Tree) (steps : List Step) :
    play room user tree (steps.map Step.bare) = play room user tree steps := by
  have hafter (past : Past) (step : Step) : past.after user step.bare = past.after user step := by
    cases step <;> rfl
  rw [play, List.foldl_map]
  simp only [hafter]
  rfl

theorem visitActive_room (user : Path) (past : Past) :
    (past.visitActive user).room = past.room := by
  unfold visitActive
  split <;> rfl

theorem after_room (user : Path) (past : Past) (step : Step) :
    (past.after user step).room = past.room := by
  cases step with
  | files | load | clear => rfl
  | loadActive => exact visitActive_room user past
  | resolve path overrides =>
    cases path with
    | some path => rfl
    | none => exact visitActive_room user past

/-- The reader has the same room all the time. -/
theorem afterAll_room (user : Path) (past : Past) (steps : List Step) :
    (steps.foldl (after user) past).room = past.room := by
  induction steps generalizing past with
  | nil => rfl
  | cons step rest ih => exact (ih _).trans (after_room user past step)

end Past

/-! ### The scene and the past -/

/-- A scene that agrees with the past: the same files, the same room, and in the store what was
found first. -/
structure Agrees (past : Past) (scene : Scene) : Prop where
  tree : scene.tree = past.tree
  room : scene.store.room = past.room
  entries : ∀ key, (scene.store.lookup? key).map Loaded.settings = past.first? key

namespace Agrees

variable {past : Past} {scene : Scene} {user : Path}

theorem load (h : Agrees past scene) (source : Source) :
    scene.answer (Settings.load scene.tree source) = past.load source ∧
      Agrees (past.visit source) (scene.perform (Settings.load scene.tree source)) := by
  rw [Scene.answer, Scene.perform, load_run, Past.load, h.tree, h.room]
  cases hkey : source.key past.tree with
  | error error =>
    refine ⟨rfl, rfl, h.room, fun other => ?_⟩
    rw [Past.first?_visit_unnamed hkey]
    exact h.entries other
  | ok key =>
    -- The store answers under the key just if a visit of it has succeeded before.
    have hentry := h.entries key
    dsimp only
    cases hlookup : scene.store.lookup? key with
    | some loaded =>
      rw [hlookup] at hentry
      rw [← hentry]
      refine ⟨rfl, rfl, h.room, fun other => ?_⟩
      rw [Past.first?_visit_found hkey hentry.symm]
      exact h.entries other
    | none =>
      rw [hlookup] at hentry
      rw [← hentry]
      cases hread : readSource past.room past.tree source with
      | error error =>
        refine ⟨rfl, rfl, h.room, fun other => ?_⟩
        rw [Past.first?_visit_failed hkey hread]
        exact h.entries other
      | ok s =>
        refine ⟨rfl, rfl, h.room, fun other => ?_⟩
        rw [lookup?_keep, Past.first?_visit_read hkey hentry.symm hread]
        split
        · rfl
        · exact h.entries other

theorem loadActive (h : Agrees past scene) :
    scene.answer (Settings.loadActive scene.tree user) = past.loadActive user ∧
      Agrees (past.visitActive user)
        (scene.perform (Settings.loadActive scene.tree user)) := by
  rw [Scene.answer, Scene.perform, loadActive_run, Past.loadActive, Past.visitActive, h.tree]
  cases activeSource past.tree user with
  | error error => exact ⟨rfl, rfl, h.room, h.entries⟩
  | ok source => exact h.tree ▸ h.load source

theorem loadBase (h : Agrees past scene) (path : Option Path) :
    scene.answer (Settings.loadBase scene.tree user path) = past.loadBase user path ∧
      Agrees (past.visitBase user path)
        (scene.perform (Settings.loadBase scene.tree user path)) := by
  cases path with
  | some path => exact h.load (.file path)
  | none => exact h.loadActive

/-- One step keeps the agreement. -/
theorem after (h : Agrees past scene) (step : Step) :
    Agrees (past.after user step) (scene.after user step) := by
  cases step with
  | files tree => exact ⟨rfl, h.room, h.entries⟩
  | load source => exact (h.load source).2
  | loadActive => exact h.loadActive.2
  | resolve path overrides =>
    have hbase : Agrees (past.visitBase user path)
        (scene.perform (Settings.loadBase scene.tree user path)) := (h.loadBase path).2
    obtain ⟨made, hstore⟩ := resolve_store scene.tree user scene.store path overrides
    have hafter : scene.after user (.resolve path overrides) = { scene with store := _ } :=
      congrArg (Scene.mk scene.tree) hstore
    rw [hafter]
    exact ⟨hbase.tree, hbase.room, hbase.entries⟩
  | clear => exact ⟨h.tree, h.room, fun _ => rfl⟩

/-- Any number of steps keep it. -/
theorem afterAll (h : Agrees past scene) (steps : List Step) :
    Agrees (steps.foldl (Past.after user) past) (steps.foldl (Scene.after user) scene) := by
  induction steps generalizing past scene with
  | nil => exact h
  | cons step rest ih => exact ih (h.after step)

theorem play (room : Json.Room) (user : Path) (tree : Tree) (steps : List Step) :
    Agrees (Past.play room user tree steps) (Scene.play room user tree steps) :=
  afterAll ⟨rfl, rfl, fun _ => rfl⟩ steps

theorem outcome (h : Agrees past scene) (step : Step) :
    scene.outcome user step = past.outcome user step := by
  cases step with
  | files tree => rfl
  | load source => exact congrArg some (h.load source).1
  | loadActive => exact congrArg some h.loadActive.1
  | resolve path overrides =>
    -- The overrides are put on the base afterwards, so only the bases have to agree.
    refine congrArg some ((resolve_settings ..).trans ?_)
    exact congrArg (· >>= fun base => (override base overrides).mapError LoadError.overrides)
      (h.loadBase path).1
  | clear => rfl

end Agrees

/-! ### What the store holds -/

theorem Visit.settings?_eq_some {room : Json.Room} {key : Source.Key} {visit : Visit}
    {s : Settings} (h : visit.settings? room key = some s) :
    visit.source.key visit.tree = .ok key ∧ readSource room visit.tree visit.source = .ok s := by
  unfold Visit.settings? at h
  split at h
  · next found hkey =>
    split at h
    · next heq => exact ⟨heq ▸ hkey, Fallible.toOption_eq_some_iff.mp h⟩
    · exact absurd h (by simp)
  · exact absurd h (by simp)

/-- What was found first is the usable content that the file of the key had at that time. -/
theorem Past.first?_content {past : Past} {key : Source.Key} {s : Settings}
    (h : past.first? key = some s) :
    s.Usable ∧ ∃ before visit later bytes,
      past.visits = before ++ visit :: later ∧
      (∀ earlier ∈ before, earlier.settings? past.room key = none) ∧
      visit.source.key visit.tree = .ok key ∧
      key.content? visit.tree = some bytes ∧
      ofBytes past.room visit.source bytes = .ok s := by
  obtain ⟨before, visit, later, hvisits, hfound, hbefore⟩ := List.findSome?_eq_some_iff.mp h
  obtain ⟨hkey, hread⟩ := Visit.settings?_eq_some hfound
  obtain ⟨bytes, hcontent, hbytes⟩ := readSource_content hkey hread
  exact ⟨readSource_usable hread, before, visit, later, bytes, hvisits, hbefore, hkey, hcontent,
    hbytes⟩

theorem source_eq_builtin {tree : Tree} {source : Source} (h : source.key tree = .ok .builtin) :
    source = .builtin := by
  cases source with
  | builtin => rfl
  | file path =>
    rw [Source.key] at h
    split at h <;> cases h

/-- The built-in settings are the defaults, whatever the past. -/
theorem Past.load_builtin (past : Past) : past.load .builtin = .ok defaults := by
  show (match past.first? .builtin with
    | some settings => .ok settings
    | none => readSource past.room past.tree .builtin) = Except.ok defaults
  cases hfirst : past.first? .builtin with
  | none => exact readSource_builtin past.room past.tree
  | some s =>
    obtain ⟨-, visit, -, -, hfound, -⟩ := List.findSome?_eq_some_iff.mp hfirst
    obtain ⟨hkey, hread⟩ := Visit.settings?_eq_some hfound
    rw [source_eq_builtin hkey, readSource_builtin] at hread
    exact congrArg Except.ok (Except.ok.inj hread).symm

theorem Past.loadActive_eq (user : Path) (past : Past) :
    past.loadActive user =
      match past.tree.isPresent user with
      | .ok true => past.load (.file user)
      | .ok false => .ok defaults
      | .error error => .error (.unreadable error) := by
  rw [loadActive, activeSource]
  cases past.tree.isPresent user with
  | error error => rfl
  | ok isPresent =>
    cases isPresent with
    | true => rfl
    | false => exact past.load_builtin

/-- A step that fails, other than overriding, leaves the scene as it was. -/
theorem Scene.after_error {user : Path} {scene : Scene} {step : Step} {error : LoadError}
    (hstep : ∀ path overrides, step ≠ .resolve path overrides)
    (h : scene.outcome user step = some (.error error)) : scene.after user step = scene := by
  have hloading {loading : Loading Loaded} (h : scene.answer loading = .error error) :
      (loading.run scene.store).1 = .error error := by
    cases hresult : (loading.run scene.store).1 <;> simp_all [answer, Except.map]
  cases step with
  | files | clear => cases h
  | load source =>
    exact congrArg (Scene.mk scene.tree) (load_error (hloading (Option.some.inj h)))
  | loadActive =>
    exact congrArg (Scene.mk scene.tree) (loadActive_error (hloading (Option.some.inj h)))
  | resolve path overrides => exact absurd rfl (hstep path overrides)

/-- Whatever happened, in any order: what is stored under a key is the usable content that its file
had at the first successful load since the store was last cleared, and nothing is stored if there
was none; a load gives what is stored, and reads the file as it is now only if nothing is; what
fails leaves the store as it was, save that overriding stores what loading its base does, also if
the overrides are refused; nothing that is loaded ever depends on the overrides before it; and the
active settings are those of the user's file if it exists then, and the defaults if not. -/
theorem store_follows_past (room : Json.Room) (user : Path) (tree : Tree) (steps : List Step) :
    let scene := Scene.play room user tree steps
    let past := Past.play room user tree steps
    scene.tree = past.tree ∧
    (∀ key loaded, scene.store.lookup? key = some loaded →
      loaded.settings.Usable ∧ ∃ before visit later bytes,
        past.visits = before ++ visit :: later ∧
        (∀ earlier ∈ before, earlier.settings? room key = none) ∧
        visit.source.key visit.tree = .ok key ∧
        key.content? visit.tree = some bytes ∧
        ofBytes room visit.source bytes = .ok loaded.settings) ∧
    (∀ key, scene.store.lookup? key = none →
      ∀ visit ∈ past.visits, visit.settings? room key = none) ∧
    (∀ source key, source.key scene.tree = .ok key →
      ((load scene.tree source).run scene.store).1 =
        match scene.store.lookup? key with
        | some loaded => .ok loaded
        | none => (readSource room scene.tree source).map (⟨scene.store.made, ·⟩)) ∧
    (∀ step error, (∀ path overrides, step ≠ .resolve path overrides) →
      scene.outcome user step = some (.error error) → scene.after user step = scene) ∧
    (∀ path overrides, (scene.after user (.resolve path overrides)).store.cache =
      match path with
      | some path => (scene.after user (.load (.file path))).store.cache
      | none => (scene.after user .loadActive).store.cache) ∧
    (∀ step, scene.outcome user step =
      (Scene.play room user tree (steps.map Step.bare)).outcome user step) ∧
    scene.outcome user .loadActive =
      match scene.tree.isPresent user with
      | .ok true => scene.outcome user (.load (.file user))
      | .ok false => some (.ok defaults)
      | .error error => some (.error (.unreadable error)) := by
  intro scene past
  have hagrees : Agrees past scene := .play room user tree steps
  have hroom : past.room = room := Past.afterAll_room user ⟨tree, [], room⟩ steps
  refine ⟨hagrees.tree, ?entries, ?missing, ?load, fun _ _ => Scene.after_error, ?resolve, ?bare,
    ?active⟩
  case entries =>
    intro key loaded hlookup
    have hfirst := hagrees.entries key
    rw [hlookup] at hfirst
    exact hroom ▸ Past.first?_content hfirst.symm
  case missing =>
    intro key hlookup
    have hfirst := hagrees.entries key
    rw [hlookup] at hfirst
    exact hroom ▸ List.findSome?_eq_none_iff.mp hfirst.symm
  case load =>
    intro source key hkey
    rw [load_run, hkey, hagrees.room, hroom]
    dsimp only
    cases scene.store.lookup? key with
    | some loaded => rfl
    | none => cases readSource room scene.tree source <;> rfl
  case resolve =>
    intro path overrides
    refine (resolve_cache scene.tree user scene.store path overrides).trans ?_
    cases path <;> rfl
  case bare =>
    intro step
    have hbare : (Scene.play room user tree (steps.map Step.bare)).outcome user step =
        (Past.play room user tree (steps.map Step.bare)).outcome user step :=
      (Agrees.play room user tree (steps.map Step.bare)).outcome step
    rw [Past.play_bare] at hbare
    exact (hagrees.outcome step).trans hbare.symm
  case active =>
    rw [hagrees.outcome, hagrees.outcome, hagrees.tree]
    refine (congrArg some (Past.loadActive_eq user past)).trans ?_
    cases past.tree.isPresent user with
    | error error => rfl
    | ok isPresent => cases isPresent <;> rfl

/-- Not all that fails leaves the store as it was: when overrides are refused, their base stays. -/
theorem refused_override_keeps_base :
    ¬ ∀ room user tree steps step error,
      (Scene.play room user tree steps).outcome user step = some (.error error) →
      ((Scene.play room user tree steps).after user step).store.cache =
        (Scene.play room user tree steps).store.cache := by
  intro h
  let path := Path.ofString "c.json"
  let tree : Tree := ⟨[], [(["c.json"], .file [0x7b, 0x7d])]⟩
  let step : Step := .resolve (some path) [(RawText.ofString "count", .int (-3))]
  let scene := Scene.play .usual path tree []
  have hfails : (scene.outcome path step).any (·.toOption.isNone) = true := by decide +kernel
  have hstored : (scene.after path step).store.cache.length = 1 := by decide +kernel
  obtain ⟨error, herror⟩ : ∃ error, scene.outcome path step = some (.error error) := by
    cases houtcome : scene.outcome path step with
    | none => simp [houtcome] at hfails
    | some outcome =>
      cases outcome with
      | error error => exact ⟨error, rfl⟩
      | ok s => simp [houtcome, Except.toOption] at hfails
  rw [h .usual path tree [] step error herror] at hstored
  cases hstored

end ClipCadence.Settings
