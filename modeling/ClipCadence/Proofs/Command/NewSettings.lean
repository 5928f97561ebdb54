import ClipCadence.Proofs.Command.Actions
import ClipCadence.Proofs.Console.Panels
import ClipCadence.Proofs.Files.Changes

/-!
New settings files. The command looks at the path, asks if something is there, makes the directories
above the path and writes the built-in file; then it prints where the file went. Each stage may end
the command, and all but the last one come before a file is touched. What is written, and where, is
said of the tree that the stages leave: one place has changed, and the path leads to it.

The path is looked at before the directories above it are made, and it stands unescaped in what is
printed at the end; so the command can change a file that it has not found, and it can end with 1
after it has written one.

Main statement: `new_settings_written_or_kept`. `new_settings_written_in_vain` is a path that is
written to although the command fails.
-/

namespace ClipCadence.Command

open Console Files Settings

/-! ### Questions -/

/-- Whether what is typed in answers a question with yes, after answers that are unclear. -/
inductive Confirms : List Char → Prop where
  | yes {input line rest : List Char} (hline : nextLine? input = some (line, rest))
    (hyes : Answer.ofLine line = .yes) : Confirms input
  | again {input line rest : List Char} (hline : nextLine? input = some (line, rest))
    (hunclear : Answer.ofLine line = .unclear) (h : Confirms rest) : Confirms input

/-- A desk after something has been asked and answered. -/
def Desk.asked (desk : Desk) (input printed : List Char) : Desk :=
  { desk with input := input, printed := printed }

theorem write_run (desk : Desk) (text : List Char) :
    (Command.write text).run desk = (.ok (), desk.asked desk.input (desk.printed ++ text)) := rfl

theorem printLines_run (desk : Desk) (lines : List Line) :
    (printLines lines).run desk =
      (.ok (), desk.asked desk.input (desk.printed ++ textOf lines)) := rfl

theorem modifyInput_run (desk : Desk) (rest : List Char) :
    (modify fun desk => { desk with input := rest } : Act Unit).run desk =
      (.ok (), desk.asked rest desk.printed) := rfl

/-- A question that is answered with yes has been answered so, and one that ends the command ends it
with 1. -/
theorem askFrom_run (question : List Char) (lines : Nat) (desk : Desk) :
    ∃ result input printed, (askFrom question lines).run desk = (result, desk.asked input printed) ∧
      (result = .ok true → Confirms desk.input) ∧
        ∀ stop, result = .error stop → stop = .exit 1 := by
  induction lines generalizing desk with
  | zero => exact ⟨.error (.exit 1), desk.input, desk.printed, rfl, by simp, by simp⟩
  | succ lines ih =>
    unfold askFrom
    rw [Fallible.run_bind_ok (write_run desk question), Fallible.run_bind_ok get_run]
    cases hnext : nextLine? (desk.asked desk.input (desk.printed ++ question)).input with
    | none => exact ⟨.error (.exit 1), _, _, rfl, by simp, by simp⟩
    | some found =>
      obtain ⟨line, rest⟩ := found
      dsimp only
      rw [Fallible.run_bind_ok (modifyInput_run _ rest),
        Fallible.run_bind_ok (printLines_run _ [line])]
      cases hanswer : Answer.ofLine line with
      | yes => exact ⟨.ok true, _, _, rfl, fun _ => .yes hnext hanswer, by simp⟩
      | no => exact ⟨.ok false, _, _, rfl, by simp, by simp⟩
      | unclear =>
        dsimp only
        rw [Fallible.run_bind_ok (printLines_run _ ["Error: invalid input".toList])]
        let prompted := desk.asked desk.input (desk.printed ++ question)
        obtain ⟨result, input, printed, hrun, hyes, hstop⟩ :=
          ih (((prompted.asked rest _).asked rest _).asked rest _)
        refine ⟨result, input, printed, hrun, fun hresult => ?_, hstop⟩
        exact .again hnext hanswer (hyes hresult)

theorem ask_run (question : List Char) (desk : Desk) :
    ∃ result input printed, (ask question).run desk = (result, desk.asked input printed) ∧
      (result = .ok true → Confirms desk.input) ∧
        ∀ stop, result = .error stop → stop = .exit 1 := by
  unfold ask
  rw [Fallible.run_bind_ok get_run]
  exact askFrom_run _ _ desk

/-! ### The stages of the command -/

/-- The file that new settings are written to: the one that is named, or that of the user. -/
def Desk.destination (desk : Desk) (file : Option String) : Path :=
  (file.map Path.ofString).getD desk.user

def writtenTitle : List Char := "⚙️  Config Init".toList

/-- What is done when nothing stands in the way. -/
def writeDefaults (path : Path) : Act Unit := do
  onFiles (·.makeDirectories path.parent)
  onFiles fun tree =>
    let (path, shown) := target tree path
    tree.write path shown defaultFile
  print fun width => Messages.successPanel width (writtenTemplate path.text.toList) writtenTitle

/-- The status of a command that has been stopped. -/
def Stop.code (stop : Stop) : Nat := (Ending.ofResult (.error stop)).code

variable {desk : Desk} {file : Option String} {force : Bool}

/-- Nothing is asked if nothing is found at the path, or if the command is forced. -/
theorem initSettings_unasked {isPresent : Bool}
    (h : desk.tree.isPresent (desk.destination file) = .ok isPresent)
    (hasks : (isPresent && !force) = false) :
    (initSettings file force).run desk = (writeDefaults (desk.destination file)).run desk := by
  unfold Desk.destination at h
  unfold initSettings
  rw [Fallible.run_bind_ok get_run]
  dsimp only
  rw [h, Fallible.run_bind_ok (orRaise_ok isPresent), hasks]
  rfl

/-- The command ends before it touches a file, or it goes on to write: if it is forced to, if
nothing was found at the path, or if it has been confirmed. -/
theorem initSettings_cases (file : Option String) (force : Bool) (desk : Desk) :
    (∃ stop input printed,
      (initSettings file force).run desk = (.error stop, desk.asked input printed) ∧
        stop.code = 1) ∨
    ∃ input printed,
      (initSettings file force).run desk =
        (writeDefaults (desk.destination file)).run (desk.asked input printed) ∧
      (force = true ∨ Confirms desk.input ∨
        desk.tree.isPresent (desk.destination file) = .ok false) := by
  cases hpresent : desk.tree.isPresent (desk.destination file) with
  | error error =>
    left
    refine ⟨.fault (.file error), desk.input, desk.printed, ?_, rfl⟩
    unfold Desk.destination at hpresent
    unfold initSettings
    rw [Fallible.run_bind_ok get_run]
    dsimp only
    rw [hpresent]
    exact Fallible.run_bind_error (orRaise_error error)
  | ok isPresent =>
    cases hasks : isPresent && !force with
    | false =>
      right
      refine ⟨desk.input, desk.printed, initSettings_unasked hpresent hasks, ?_⟩
      cases hforce : force with
      | true => exact .inl rfl
      | false => exact .inr (.inr (by simpa [hforce] using hasks))
    | true =>
      unfold initSettings
      rw [Fallible.run_bind_ok get_run]
      have hdestination : (file.map Path.ofString).getD desk.user = desk.destination file := rfl
      dsimp only
      rw [hdestination, hpresent, Fallible.run_bind_ok (orRaise_ok isPresent), hasks, if_pos rfl]
      cases hshown : printed desk.width (presentTemplate (desk.destination file).text.toList) with
      | error error =>
        left
        rw [Fallible.run_bind_error (printMarkup_raised hshown)]
        exact ⟨_, desk.input, desk.printed, rfl, rfl⟩
      | ok lines =>
        rw [Fallible.run_bind_ok (printMarkup_run hshown)]
        obtain ⟨result, input, printed, hask, hyes, hstop⟩ := ask_run "Overwrite it?".toList
          { desk with printed := desk.printed ++ textOf lines }
        cases result with
        | error stop =>
          left
          obtain rfl := hstop stop rfl
          rw [Fallible.run_bind_error hask]
          exact ⟨_, input, printed, rfl, rfl⟩
        | ok overwrite =>
          rw [Fallible.run_bind_ok hask]
          cases overwrite with
          | false => exact .inl ⟨.exit 1, input, printed, rfl, rfl⟩
          | true => exact .inr ⟨input, printed, rfl, .inr (.inl (hyes rfl))⟩

/-! ### Writing -/

section Writing

variable {change : Tree → Except FileError Tree}

theorem onFiles_run {tree : Tree} (h : change desk.tree = .ok tree) :
    (onFiles change).run desk = (.ok (), { desk with tree := tree }) := by
  unfold onFiles
  rw [Fallible.run_bind_ok get_run, h]
  rfl

theorem onFiles_raised {error : FileError} (h : change desk.tree = .error error) :
    (onFiles change).run desk = (.error (.fault (.file error)), desk) := by
  unfold onFiles
  rw [Fallible.run_bind_ok get_run, h]
  rfl

end Writing

/-- The files after new settings have been written through a path: one place holds them, every other
file is as before, and the path leads to that place, or to the directory that it is in. -/
structure Wrote (before : Tree) (path : Path) (place : Place) (after : Tree) : Prop where
  content : after.file? place = some defaultFile
  others : ∀ other, other ≠ place → after.file? other = before.file? other
  found : after.find (target after path).1 = .ok place
  loads : after.isDirectory path = false → ∀ store : Store, store.cache = [] →
    ((load after (.file path)).run store).1.map Loaded.settings = .ok defaults

/-- The built-in file loads as the defaults, under any name. -/
theorem load_defaultFile {tree : Tree} {path : Path} {store : Store}
    (h : tree.found? path = some (.file defaultFile)) (hstore : store.cache = []) :
    ((load tree (.file path)).run store).1.map Loaded.settings = .ok defaults := by
  obtain ⟨place, hfind, -⟩ := Tree.found?_eq_some h
  rw [load_of_empty hstore (Tree.hasNul_of_find hfind), readSource_file h]
  obtain ⟨bytes, hread, hbuiltin⟩ := readSource_eq_ok (readSource_builtin store.room tree)
  cases hread
  exact ofBytes_eq_ok_iff.mpr (ofBytes_eq_ok_iff.mp hbuiltin)

section Written

variable {tree made after : Tree} {path : Path}

/-- Where the settings are written to depends only on whether the path leads to a directory. -/
theorem target_eq (tree : Tree) (path : Path) :
    (target tree path).1 =
      if tree.isDirectory path then path.child ["emitter_default.json"] else path := by
  unfold target
  split <;> rfl

theorem wrote_of_write (hmade : tree.makeDirectories path.parent = .ok made)
    (hwrite : made.write (target made path).1 (target made path).2 defaultFile = .ok after) :
    ∃ place, Wrote tree path place after ∧
      (tree.isPresent path = .ok false → tree.isDirectory path.parent = true →
        tree.entry? place = none) := by
  have hextends := Tree.extends_makeDirectories hmade
  obtain ⟨place, hnew, hentry, rfl⟩ := Tree.write_eq_ok hwrite
  rw [target_eq] at hnew
  refine ⟨place, ⟨Tree.file?_set hentry _, fun other hother => ?others, ?found, ?loads⟩, ?empty⟩
  case others => rw [Tree.file?_set_of_ne hentry hother, hextends.file?]
  case found =>
    have hkept : (made.set place (.file defaultFile)).find
        (if made.isDirectory path then path.child ["emitter_default.json"] else path) = .ok place :=
      Tree.find_set hnew hentry
    cases hdirectory : made.isDirectory path with
    | true =>
      rw [target_eq, Tree.isDirectory_set hdirectory hentry]
      rwa [hdirectory] at hkept
    | false =>
      rw [hdirectory, if_neg Bool.false_ne_true] at hnew hkept
      have hfile : (made.set place (.file defaultFile)).isDirectory path = false := by
        simp [Tree.isDirectory, Tree.found?_set hnew hentry]
      rwa [target_eq, hfile, if_neg Bool.false_ne_true]
  case loads =>
    intro hfile store hstore
    have hdirectory : made.isDirectory path = false := by
      cases hdirectory : made.isDirectory path with
      | false => rfl
      | true => cases (Tree.isDirectory_set hdirectory hentry).symm.trans hfile
    rw [hdirectory, if_neg Bool.false_ne_true] at hnew
    exact load_defaultFile (Tree.found?_set hnew hentry) hstore
  case empty =>
    intro hmissing hparent
    obtain rfl : tree = made :=
      Except.ok.inj ((Tree.makeDirectories_of_isDirectory hparent).symm.trans hmade)
    have hnone := Tree.found?_of_missing hmissing
    have hdirectory : tree.isDirectory path = false := by simp [Tree.isDirectory, hnone]
    rw [hdirectory, if_neg Bool.false_ne_true] at hnew
    exact Tree.entry?_of_not_found hnew hnone

theorem writeDefaults_run (hmade : desk.tree.makeDirectories path.parent = .ok made)
    (hwrite : made.write (target made path).1 (target made path).2 defaultFile = .ok after) :
    (writeDefaults path).run desk =
      (print fun width => Messages.successPanel width (writtenTemplate path.text.toList)
        writtenTitle).run { desk with tree := after } := by
  unfold writeDefaults
  rw [Fallible.run_bind_ok (onFiles_run hmade), Fallible.run_bind_ok (onFiles_run hwrite)]

/-- Writing ends before a file is touched, or in what can be said of it. -/
theorem writeDefaults_cases (path : Path) (desk : Desk) :
    (∃ stop after, (writeDefaults path).run desk = (.error stop, after) ∧ stop.code = 1 ∧
      ∀ place, after.tree.file? place = desk.tree.file? place) ∨
    ∃ place tree,
      (writeDefaults path).run desk =
        (print fun width => Messages.successPanel width (writtenTemplate path.text.toList)
          writtenTitle).run { desk with tree := tree } ∧
      Wrote desk.tree path place tree ∧
      (desk.tree.isPresent path = .ok false → desk.tree.isDirectory path.parent = true →
        desk.tree.entry? place = none) := by
  cases hmade : desk.tree.makeDirectories path.parent with
  | error error =>
    left
    unfold writeDefaults
    rw [Fallible.run_bind_error (onFiles_raised hmade)]
    exact ⟨_, desk, rfl, rfl, fun _ => rfl⟩
  | ok made =>
    cases hwrite : made.write (target made path).1 (target made path).2 defaultFile with
    | error error =>
      left
      unfold writeDefaults
      rw [Fallible.run_bind_ok (onFiles_run hmade), Fallible.run_bind_error (onFiles_raised hwrite)]
      exact ⟨_, _, rfl, rfl, (Tree.extends_makeDirectories hmade).file?⟩
    | ok tree =>
      right
      obtain ⟨place, hwrote, hempty⟩ := wrote_of_write hmade hwrite
      exact ⟨place, tree, writeDefaults_run hmade hwrite, hwrote, hempty⟩

end Written

/-! ### The message -/

section Message

open Markup

/-- The message is rendered if no bracket stands in the path, which is put into it as it is. -/
theorem settled_written {path : List Char} (h : '[' ∉ path) : Settled 0 (writtenTemplate path) := by
  have hopening : "✅ Configuration written to: [bold green]".toList =
      "✅ Configuration written to: ".toList ++ bracketed "bold green".toList := by decide
  have hclosing :
      "[/]\n\nEdit it and pass it with [bold]--config[/]:\n  clip-emitter run --config \"".toList =
        bracketed ['/'] ++ ("\n\nEdit it and pass it with ".toList ++ (bracketed "bold".toList ++
          ("--config".toList ++ (bracketed ['/'] ++
            ":\n  clip-emitter run --config \"".toList)))) := by decide
  have hend (opened : Nat) :
      Safe opened (":\n  clip-emitter run --config \"".toList ++ (path ++ ['"'])) := by
    have hquote : Safe opened (['"'] ++ []) := (safe_nil opened).append (by decide)
    exact Safe.append (by decide) (hquote.append h)
  have hoption (opened : Nat) : Settled opened (bracketed "bold".toList ++ ("--config".toList ++
      (bracketed ['/'] ++ (":\n  clip-emitter run --config \"".toList ++ (path ++ ['"']))))) := by
    refine Settled.opening ⟨by decide, by decide⟩ (by decide) (Safe.settled ?_)
    exact (Settled.closing fun opened => (hend opened).settled).append (by decide)
  unfold writtenTemplate
  rw [hopening, hclosing]
  simp only [List.append_assoc]
  refine Safe.settled (Settled.append (by decide) (by decide) ?_)
  refine Settled.opening ⟨by decide, by decide⟩ (by decide) (Safe.settled (Safe.append h ?_))
  exact Settled.closing fun opened =>
    ((hoption opened).append (by decide) (by decide)).settled

theorem settled_writtenTitle : Settled 0 writtenTitle := by
  have htitle : Safe 0 (writtenTitle ++ []) := (safe_nil 0).append (by decide)
  rw [List.append_nil] at htitle
  exact htitle.settled

end Message

/-! ### The whole command -/

/-- **New settings, all or nothing.** Let a command line ask for a new settings file at some path.
Either the command ends with 1 and every file is as it was, or the settings have been written: to
the place of the path, or under the name of the built-in file into the directory that the path leads
to. Then no other file has changed; if the path leads to no directory, loading it gives the
defaults; and unless the command was forced or confirmed, there was nothing at that place, or the
directory above the path was missing as it is spelled, so that nothing was found there. The status
is 0 just if the message about it can be printed, in which the path stands as it is: a path without
a bracket can be. -/
theorem new_settings_written_or_kept {environment : UserSettings.Environment}
    {arguments : List String} {file : Option String} {force : Bool} {desk : Desk}
    (hread : read desk.readers environment arguments = .ok (.initSettings file force)) :
    let path := desk.destination file
    let ending := (perform environment arguments desk).1
    let after := (perform environment arguments desk).2.tree
    let message := Messages.successPanel desk.width (writtenTemplate path.text.toList) writtenTitle
    (ending.code = 1 ∧ ∀ place, after.file? place = desk.tree.file? place) ∨
      ∃ place, Wrote desk.tree path place after ∧
        (force = true ∨ Confirms desk.input ∨ desk.tree.isPresent path = .ok false ∧
          (desk.tree.entry? place = none ∨ desk.tree.isDirectory path.parent = false)) ∧
        (∀ lines, message = .ok lines → ending = .status 0) ∧
        (∀ error, message = .error error → ending = .fault (.markup error)) ∧
        ('[' ∉ path.text.toList → ending = .status 0) := by
  intro path ending after message
  have hends {result : Except Stop Unit} {left : Desk}
      (hrun : (initSettings file force).run desk = (result, left)) :
      ending = .ofResult result ∧ after = left.tree := by
    have hperform := perform_run hread hrun
    exact ⟨congrArg Prod.fst hperform, congrArg (·.2.tree) hperform⟩
  rcases initSettings_cases file force desk with
    ⟨stop, input, printed, hrun, hstop⟩ | ⟨input, printed, hrun, hallowed⟩
  · obtain ⟨hending, hafter⟩ := hends hrun
    refine .inl ⟨?_, fun place => ?_⟩
    · rw [hending]
      exact hstop
    · rw [hafter]
      rfl
  rcases writeDefaults_cases path (desk.asked input printed) with
    ⟨stop, left, hwrite, hstop, hkept⟩ | ⟨place, tree, hwrite, hwrote, hempty⟩
  · obtain ⟨hending, hafter⟩ := hends (hrun.trans hwrite)
    refine .inl ⟨?_, fun place => ?_⟩
    · rw [hending]
      exact hstop
    · rw [hafter]
      exact hkept place
  right
  have hpermitted : force = true ∨ Confirms desk.input ∨ desk.tree.isPresent path = .ok false ∧
      (desk.tree.entry? place = none ∨ desk.tree.isDirectory path.parent = false) := by
    refine hallowed.imp_right (Or.imp_right fun hmissing => ⟨hmissing, ?_⟩)
    cases hparent : desk.tree.isDirectory path.parent with
    | false => exact .inr rfl
    | true => exact .inl (hempty hmissing hparent)
  let written : Desk := { desk.asked input printed with tree := tree }
  let panel : Nat → Printed := fun width =>
    Messages.successPanel width (writtenTemplate path.text.toList) writtenTitle
  have hprinted {lines : List Line} (hmessage : panel written.width = .ok lines) :
      ending = .status 0 ∧ after = tree :=
    hends ((hrun.trans hwrite).trans (print_run hmessage))
  have hraised {error : Markup.Error} (hmessage : panel written.width = .error error) :
      ending = .fault (.markup error) ∧ after = tree :=
    hends ((hrun.trans hwrite).trans (print_raised hmessage))
  have hafter : after = tree := by
    cases hmessage : message with
    | ok lines => exact (hprinted hmessage).2
    | error error => exact (hraised hmessage).2
  refine ⟨place, hafter ▸ hwrote, hpermitted, fun lines h => (hprinted h).1,
    fun error h => (hraised h).1, fun hbracket => ?_⟩
  obtain ⟨lines, hmessage⟩ :=
    successPanel_ok (settled_written hbracket) settled_writtenTitle desk.width
  exact (hprinted hmessage).1

/-- A file that is there stays as it is when nobody answers. -/
theorem new_settings_unconfirmed :
    let world : World := ⟨⟨0, by decide⟩, 0, .memory (.empty []), [], [], none, false, [], [], []⟩
    let desk : Desk := ⟨⟨[], [(["c.json"], .file [])]⟩, .empty, Path.ofString "user.json",
      ⟨"linux", none, []⟩, 80, [], [], .fresh, world, [], .lax⟩
    let arguments := ["config", "init", "--output", "c.json"]
    read desk.readers [] arguments = .ok (.initSettings (some "c.json") false) ∧
      (perform [] arguments desk).1.code = 1 ∧
      ∀ place, (perform [] arguments desk).2.tree.file? place = desk.tree.file? place := by
  intro world desk arguments
  have hread : read desk.readers [] arguments = .ok (.initSettings (some "c.json") false) := by rfl
  refine ⟨hread, (new_settings_written_or_kept hread).resolve_right ?_⟩
  rintro ⟨place, -, hforced | hconfirmed | ⟨hmissing, -⟩, -⟩
  · cases hforced
  · cases hconfirmed with
    | yes hline => cases hline
    | again hline => cases hline
  · cases hmissing

/-- A path with a closing tag in it: the settings are written, and then the message about them
cannot be rendered, so that the command ends with 1. -/
theorem new_settings_written_in_vain :
    let world : World := ⟨⟨0, by decide⟩, 0, .memory (.empty []), [], [], none, false, [], [], []⟩
    let desk : Desk := ⟨⟨[], []⟩, .empty, Path.ofString "user.json", ⟨"linux", none, []⟩, 80, [],
      [], .fresh, world, [], .lax⟩
    let arguments := ["config", "init", "--output", "new[/].json"]
    read desk.readers [] arguments = .ok (.initSettings (some "new[/].json") false) ∧
      (perform [] arguments desk).1.code = 1 ∧
      desk.tree.file? ["new[", "].json"] = none ∧
      (perform [] arguments desk).2.tree.file? ["new[", "].json"] = some defaultFile := by
  intro world desk arguments
  let path := Path.ofString "new[/].json"
  let made : Tree := ⟨[], [(["new["], .directory)]⟩
  let after : Tree := made.set ["new[", "].json"] (.file defaultFile)
  have hread : read desk.readers [] arguments = .ok (.initSettings (some "new[/].json") false) := by
    rfl
  have hmissing : desk.tree.isPresent path = .ok false := by rfl
  have hmade : desk.tree.makeDirectories path.parent = .ok made := by rfl
  have hwrite : made.write (target made path).1 (target made path).2 defaultFile = .ok after := by
    rfl
  have hcloses : Markup.overcloses 0 (Markup.tokens (writtenTemplate path.text.toList)) = true := by
    decide +kernel
  obtain ⟨position, hrender⟩ := Markup.render_overcloses hcloses
  let panel : Nat → Printed := fun width =>
    Messages.successPanel width (writtenTemplate path.text.toList) writtenTitle
  let written : Desk := { desk with tree := after }
  have hpanel : panel written.width = .error (.nothingToClose position) :=
    successPanel_raised hrender settled_writtenTitle (by decide)
  have hunasked : (initSettings (some "new[/].json") false).run desk =
      (writeDefaults path).run desk := initSettings_unasked hmissing rfl
  have hrun := (hunasked.trans (writeDefaults_run hmade hwrite)).trans (print_raised hpanel)
  have hperform := perform_run hread hrun
  refine ⟨hread, congrArg (·.1.code) hperform, rfl, ?_⟩
  exact congrArg (·.2.tree.file? ["new[", "].json"]) hperform

end ClipCadence.Command
