import ClipCadence.Proofs.Command.ExitStatus

/-!
Commands with a settings file that cannot be used. A run, a listing of settings and a check of a
file each load the file they are given, and each ends where loading fails: with status 1 and a
message, if the user can mend the file, and in an error that no message explains otherwise. Nothing
has been called by then. A check looks whether there is a file before it loads anything, and says
that it is missing in words of its own.

Main statement: `unusable_file_refused_or_raised`.
-/

namespace ClipCadence.Command

open Console Files Settings

/-- The file that a request loads its settings from, if it names one. -/
def Request.settingsFile? : Request → Option String
  | .run options => options.settings
  | .showSettings file => file
  | .validateSettings file => some file
  | .backends | .initSettings .. | .settingsPath => none

def missingTemplate (path : Path) : List Char :=
  Messages.errorTemplate ("File not found: " ++ path.text).toList

def headingTemplate : List Char := "[bold red]❌ Validation error:[/]\n".toList

/-- What a check prints about an error: a heading, and the message as it is. -/
def headedLines (width : Nat) (error : LoadError) : Printed := do
  let heading ← printed width headingTemplate
  let message ← printedText width (.plain error.message.toList)
  return heading ++ message

/-- How a request explains that a file cannot be loaded. -/
def Request.explanation (desk : Desk) (path : Path) (error : LoadError) : Request → Printed
  | .validateSettings _ =>
    match desk.tree.found? path with
    | some _ => headedLines desk.width error
    | none => printed desk.width (missingTemplate path)
  | _ => printed desk.width (Messages.errorTemplate error.message.toList)

/-- Loading a file, wherever the user keeps settings. -/
def loadingFile (file : String) (tree : Tree) (_ : Path) : Loading Loaded :=
  Settings.load tree (.file (.ofString file))

/-! ### Explanations -/

theorem textOf_append (first second : List Line) :
    textOf (first ++ second) = textOf first ++ textOf second :=
  List.flatMap_append

theorem settled_heading : Markup.Settled 0 headingTemplate := by
  have hsplit : headingTemplate = Markup.bracketed "bold red".toList ++
      ("❌ Validation error:".toList ++ (Markup.bracketed ['/'] ++ ("\n".toList ++ []))) := by decide
  have hend (opened : Nat) : Markup.Settled opened ("\n".toList ++ []) :=
    ((Markup.safe_nil opened).append (by decide)).settled
  rw [hsplit]
  refine Markup.Settled.opening ⟨by decide, by decide⟩ (by decide) (Markup.Safe.settled ?_)
  exact (Markup.Settled.closing hend).append (by decide)

/-- The heading and the message are printed, one after the other. -/
theorem headedLines_ok (width : Nat) (error : LoadError) :
    ∃ heading message, printed width headingTemplate = .ok heading ∧
      printedText width (.plain error.message.toList) = .ok message ∧
      headedLines width error = .ok (heading ++ message) := by
  obtain ⟨heading, hheading⟩ := printed_ok settled_heading width
  have hshown : (Styled.plain error.message.toList).isFlawed = false := rfl
  obtain ⟨message, hmessage⟩ := printedText_ok hshown width
  refine ⟨heading, message, hheading, hmessage, ?_⟩
  unfold headedLines
  rw [hheading, hmessage]
  rfl

/-! ### Listing -/

section Commands

variable {desk : Desk} {file : String} {error : LoadError}

/-- What a listing does with its settings, or with the error that the user can mend. -/
def showLoaded : Except LoadError Settings → Act Unit
  | .error error => refuse error.message
  | .ok settings =>
    match settings.document? with
    | .error error => raise (.text error)
    | .ok document =>
      print fun width => Messages.documentPanel width document Messages.documentTitle

theorem showSettings_run (file : String) : (showSettings (some file)).run desk =
    (loading (loadingFile file) >>= showLoaded).run desk := by
  unfold showSettings
  refine congrArg (fun next => (Command.loading _ >>= next).run _) (funext ?_)
  rintro (error | settings) <;> rfl

/-! ### Checking -/

/-- What a check does with the settings of a file, or with the error that the user can mend. -/
def checkLoaded : Except LoadError Settings → Act Unit
  | .error error => do
    printMarkup headingTemplate
    print fun width => printedText width (.plain error.message.toList)
    exitWith 1
  | .ok settings => print fun width => validPanel width settings

theorem validateSettings_unnameable {trouble : FileError}
    (h : desk.tree.isPresent (.ofString file) = .error trouble) :
    (validateSettings file).run desk = (.error (.fault (.file trouble)), desk) := by
  unfold validateSettings
  rw [Fallible.run_bind_ok get_run, h]
  exact Fallible.run_bind_error (orRaise_error trouble)

theorem validateSettings_missing (h : desk.tree.isPresent (.ofString file) = .ok false) :
    (validateSettings file).run desk =
      (refuse ("File not found: " ++ (Path.ofString file).text) : Act Unit).run desk := by
  unfold validateSettings
  rw [Fallible.run_bind_ok get_run, h, Fallible.run_bind_ok (orRaise_ok false)]
  rfl

theorem validateSettings_present (h : desk.tree.isPresent (.ofString file) = .ok true) :
    (validateSettings file).run desk =
      (loading (loadingFile file) >>= checkLoaded).run desk := by
  unfold validateSettings
  rw [Fallible.run_bind_ok get_run, h, Fallible.run_bind_ok (orRaise_ok true)]
  refine congrArg (fun next => (Command.loading _ >>= next).run _) (funext ?_)
  rintro (error | settings) <;> rfl

/-- A check prints its heading and then the message of the error. -/
theorem checkLoaded_refused (desk : Desk) (error : LoadError) :
    ∃ lines after, headedLines desk.width error = .ok lines ∧
      (checkLoaded (.error error)).run desk = (.error (.exit 1), after) ∧
      Untouched desk lines after := by
  obtain ⟨heading, message, hheading, hmessage, hlines⟩ := headedLines_ok desk.width error
  let headed : Desk := { desk with printed := desk.printed ++ textOf heading }
  let ended : Desk := { headed with printed := headed.printed ++ textOf message }
  have hfirst : (printMarkup headingTemplate).run desk =
      (.ok (), headed) := printMarkup_run hheading
  have hsecond : (print fun width => printedText width (.plain error.message.toList)).run headed =
      (.ok (), ended) := print_run hmessage
  have hprinted : ended.printed = desk.printed ++ textOf (heading ++ message) := by
    rw [textOf_append, ← List.append_assoc]
  refine ⟨heading ++ message, ended, hlines, ?_, rfl, hprinted⟩
  exact (Fallible.run_bind_ok hfirst).trans (Fallible.run_bind_ok hsecond)

/-! ### What is at the path -/

theorem fileSettings_unnameable {path : Path} {trouble : FileError}
    (hstore : desk.store.cache = []) (h : desk.tree.isPresent path = .error trouble) :
    desk.fileSettings path = .error (.unreadable trouble) := by
  have hnul : path.hasNul = false := by
    cases hnul : path.hasNul with
    | false => rfl
    | true => simp [Tree.isPresent, Tree.find, Tree.checkPath, hnul, bind, Except.bind] at h
  exact (load_of_empty hstore hnul).trans (readSource_unnameable h)

theorem fileSettings_missing {path : Path} (hstore : desk.store.cache = [])
    (hnul : path.hasNul = false) (h : desk.tree.isPresent path = .ok false) :
    desk.fileSettings path = .error (.notFound (.file path)) :=
  (load_of_empty hstore hnul).trans (readSource_missing h)

/-! ### Each request -/

theorem validateSettings_refused (hstore : desk.store.cache = [])
    (h : desk.fileSettings (.ofString file) = .error error) (hmend : error.isConfiguration = true) :
    ∃ lines after,
      (Request.validateSettings file).explanation desk (.ofString file) error = .ok lines ∧
      (validateSettings file).run desk = (.error (.exit 1), after) ∧
      Untouched desk lines after := by
  -- A check asks for the file before it loads it, so what loading says of a path to nothing is
  -- never heard.
  cases hpresent : desk.tree.isPresent (.ofString file) with
  | error trouble =>
    rw [fileSettings_unnameable hstore hpresent] at h
    rw [← Except.error.inj h] at hmend
    cases hmend
  | ok isPresent =>
    cases isPresent with
    | false =>
      rw [validateSettings_missing hpresent]
      obtain ⟨lines, after, hlines, hrefuse, huntouched⟩ :=
        refuse_run (α := Unit) desk ("File not found: " ++ (Path.ofString file).text)
          (canPrint_nil _)
      refine ⟨lines, after, ?_, hrefuse, huntouched⟩
      unfold Request.explanation
      rw [Tree.found?_of_missing hpresent]
      exact hlines
    | true =>
      obtain ⟨store, hload⟩ := run_of_settings_error h
      let loaded : Desk := { desk with store := store }
      have hloading : (loading (loadingFile file)).run desk = (.ok (.error error), loaded) :=
        loading_refused hload hmend
      obtain ⟨lines, after, hlines, hcheck, hworld, hprinted⟩ := checkLoaded_refused loaded error
      obtain ⟨entry, hentry⟩ := Tree.found?_of_present hpresent
      refine ⟨lines, after, ?_, ?_, hworld, hprinted⟩
      · unfold Request.explanation
        rw [hentry]
        exact hlines
      · rw [validateSettings_present hpresent]
        exact (Fallible.run_bind_ok hloading).trans hcheck

theorem validateSettings_raised (hstore : desk.store.cache = [])
    (hnul : (Path.ofString file).hasNul = false)
    (h : desk.fileSettings (.ofString file) = .error error)
    (hmend : error.isConfiguration = false) :
    ∃ fault after, (validateSettings file).run desk = (.error (.fault fault), after) ∧
      Untouched desk [] after := by
  cases hpresent : desk.tree.isPresent (.ofString file) with
  | error trouble =>
    exact ⟨_, desk, validateSettings_unnameable hpresent, rfl, (List.append_nil _).symm⟩
  | ok isPresent =>
    cases isPresent with
    | false =>
      rw [fileSettings_missing hstore hnul hpresent] at h
      rw [← Except.error.inj h] at hmend
      cases hmend
    | true =>
      obtain ⟨store, hload⟩ := run_of_settings_error h
      obtain ⟨after, hrun, huntouched⟩ :=
        loading_bind_raised desk (loadingFile file) checkLoaded hload hmend
      exact ⟨_, after, (validateSettings_present hpresent).trans hrun, huntouched⟩

theorem execute_refused {request : Request} (hfile : request.settingsFile? = some file)
    (hstore : desk.store.cache = []) (h : desk.fileSettings (.ofString file) = .error error)
    (hmend : error.isConfiguration = true) :
    ∃ lines after, request.explanation desk (.ofString file) error = .ok lines ∧
      (execute request).run desk = (.error (.exit 1), after) ∧ Untouched desk lines after := by
  cases request with
  | run options => exact runEvents_refused (settings_of_file hfile h) hmend
  | showSettings found =>
    obtain rfl : found = some file := hfile
    obtain ⟨store, hload⟩ := run_of_settings_error h
    obtain ⟨lines, after, hlines, hrun, huntouched⟩ :=
      loading_bind_refused desk (loadingFile file) showLoaded (fun _ => rfl) hload hmend
    exact ⟨lines, after, hlines, (showSettings_run file).trans hrun, huntouched⟩
  | validateSettings found =>
    obtain rfl : found = file := Option.some.inj hfile
    exact validateSettings_refused hstore h hmend
  | backends => cases hfile
  | initSettings => cases hfile
  | settingsPath => cases hfile

theorem execute_raised {request : Request} (hfile : request.settingsFile? = some file)
    (hstore : desk.store.cache = []) (hnul : (Path.ofString file).hasNul = false)
    (h : desk.fileSettings (.ofString file) = .error error)
    (hmend : error.isConfiguration = false) :
    ∃ fault after, (execute request).run desk = (.error (.fault fault), after) ∧
      Untouched desk [] after := by
  cases request with
  | run options =>
    exact ⟨_, runEvents_raised (settings_of_file hfile h) hmend⟩
  | showSettings found =>
    obtain rfl : found = some file := hfile
    obtain ⟨store, hload⟩ := run_of_settings_error h
    obtain ⟨after, hrun, huntouched⟩ :=
      loading_bind_raised desk (loadingFile file) showLoaded hload hmend
    exact ⟨_, after, (showSettings_run file).trans hrun, huntouched⟩
  | validateSettings found =>
    obtain rfl : found = file := Option.some.inj hfile
    exact validateSettings_raised hstore hnul h hmend
  | backends => cases hfile
  | initSettings => cases hfile
  | settingsPath => cases hfile

end Commands

/-- **Loading a file, and the commands that do.** With nothing loaded yet, loading a path at which
no directory stands gives usable settings or an error that the user can mend just if the reader can
judge the bytes of the file, or, for a path to nothing, if the path could lead somewhere. A command
that names the path ends where it does not load. An error that the user can mend is explained, and
the status is 1; any other ends the command in a fault with nothing said. Nothing has been called
by then. No command line holds a NUL; with one in its path, a check finds no file. -/
theorem unusable_file_refused_or_raised {tree : Tree} {path : Path} {store : Store}
    (hstore : store.cache = []) (hpath : tree.found? path ≠ some .directory) :
    let loaded := ((load tree (.file path)).run store).1.map Loaded.settings
    (Explained loaded ↔
      match tree.found? path with
      | some (.file bytes) => Judged store.room bytes
      | _ => path.hasNul = false ∧ tree.isPresent path = .ok false) ∧
    ∀ environment arguments request desk, read desk.readers environment arguments = .ok request →
      request.settingsFile?.map Path.ofString = some path → desk.tree = tree → desk.store = store →
      ∀ error, loaded = .error error →
        let ending := (perform environment arguments desk).1
        let after := (perform environment arguments desk).2
        (error.isConfiguration = true →
          ∃ lines, request.explanation desk path error = .ok lines ∧ ending = .status 1 ∧
            Untouched desk lines after) ∧
        (error.isConfiguration = false → path.hasNul = false →
          (∃ fault, ending = .fault fault) ∧ Untouched desk [] after) := by
  intro loaded
  refine ⟨load_explained_iff hstore hpath, ?_⟩
  rintro environment arguments request desk hread hrequest rfl rfl error h ending after
  obtain ⟨file, hfile, rfl⟩ := Option.map_eq_some_iff.mp hrequest
  refine ⟨fun hmend => ?explained, fun hmend hnul => ?raised⟩
  case explained =>
    obtain ⟨lines, left, hlines, hrun, huntouched⟩ := execute_refused hfile hstore h hmend
    have hperform := perform_run hread hrun
    have hleft : after = left := congrArg Prod.snd hperform
    exact ⟨lines, hlines, congrArg Prod.fst hperform, hleft ▸ huntouched⟩
  case raised =>
    obtain ⟨fault, left, hrun, huntouched⟩ := execute_raised hfile hstore hnul h hmend
    have hperform := perform_run hread hrun
    have hleft : after = left := congrArg Prod.snd hperform
    exact ⟨⟨fault, congrArg Prod.fst hperform⟩, hleft ▸ huntouched⟩

/-- A listing of the settings in a file that is not there. -/
theorem missing_file_refused :
    let tree : Tree := ⟨[], []⟩
    let world : World := ⟨⟨0, by decide⟩, 0, .memory (.empty []), [], [], none, false, [], [], []⟩
    let desk : Desk := ⟨tree, .empty, Path.ofString "user.json", ⟨"linux", none, []⟩, 80, [], [],
      .fresh, world, [], .lax⟩
    Store.empty.cache = [] ∧ tree.found? (.ofString "c.json") ≠ some .directory ∧
      (perform [] ["config", "show", "--config", "c.json"] desk).1 = .status 1 := by
  intro tree world desk
  have hread : read desk.readers [] ["config", "show", "--config", "c.json"] =
      .ok (.showSettings (some "c.json")) := by rfl
  have hfound : tree.found? (.ofString "c.json") ≠ some .directory := by decide
  have hmissing : tree.isPresent (.ofString "c.json") = .ok false := by rfl
  have hload : desk.fileSettings (.ofString "c.json") =
      .error (.notFound (.file (.ofString "c.json"))) :=
    fileSettings_missing rfl (by decide) hmissing
  have hempty : Store.empty.cache = [] := rfl
  obtain ⟨-, hcommand⟩ := unusable_file_refused_or_raised hempty hfound
  obtain ⟨-, -, hstatus, -⟩ := (hcommand [] _ _ desk hread rfl rfl rfl _ hload).1 rfl
  exact ⟨hempty, hfound, hstatus⟩

end ClipCadence.Command
