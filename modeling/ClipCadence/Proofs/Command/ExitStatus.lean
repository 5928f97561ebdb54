import ClipCadence.Proofs.Command.Actions
import ClipCadence.Proofs.Run.Showing
import ClipCadence.Proofs.Settings.Depth
import ClipCadence.Proofs.Settings.Loading

/-!
The exit status of the command `run`. A run that gets as far as its first event ends with 0, or with
130 if it was told to stop, however many of its writes fail. What ends the command with 1 are its
settings and its clipboard, before the run has called anything; the user is told why, unless the
settings file fails in a way that no message explains. A clipboard whose name cannot be printed ends
it with 1 at the header of the run.

Main statement: `run_exit_status`. `deep_settings_unexplained` is a document whose exit status is 1
although nothing about it is wrong as a configuration.
-/

namespace ClipCadence.Command

open Console Files Settings

/-! ### The clipboard and the events -/

section Actions

variable {desk : Desk}

theorem chooseClipboard_ok {settings : Settings} {dryRun : Bool} {clipboard : Clipboard}
    {session : Session} {logs : List Log.Record}
    (h : (Session.start settings dryRun).access desk.machine = .ok (clipboard, session, logs)) :
    (chooseClipboard settings dryRun).run desk = (.ok clipboard, desk) := by
  unfold chooseClipboard
  rw [Fallible.run_bind_ok get_run, h]
  rfl

theorem chooseClipboard_refused {settings : Settings} {dryRun : Bool} {error : NotFound}
    (h : (Session.start settings dryRun).access desk.machine = .error error) :
    (chooseClipboard settings dryRun).run desk = (refuse error.message error.named).run desk := by
  unfold chooseClipboard
  rw [Fallible.run_bind_ok get_run, h]

variable (desk) in
/-- A rehearsal prints what its notices say, and a crash in it is raised. -/
theorem rehearse_run {clipboard : Clipboard} {settings : Settings} {summary : Bool}
    {result : Except Crash Report} {world : World}
    (h : (desk.prepare clipboard).rehearse (.printed (progress desk.width summary)) settings =
      (result, world)) :
    (rehearse clipboard settings summary).run desk =
      (result.mapError fun crash => .fault (.run crash), { desk with
        world := { world with printed := [] }
        printed := desk.printed ++ textOf world.printed }) := by
  unfold rehearse
  rw [Fallible.run_bind_ok get_run]
  -- The rehearsal is only passed on here; it must not be computed.
  generalize (desk.prepare clipboard).rehearse (.printed (progress desk.width summary)) settings =
    rehearsal at h
  subst h
  cases result <;> rfl

end Actions

theorem Desk.name_prepare (desk : Desk) (clipboard : Clipboard) :
    (desk.prepare clipboard).clipboard.name = clipboard.name := by
  cases clipboard <;> rfl

/-! ### The command `run` -/

section Run

variable (options : RunOptions) (desk : Desk)

/-- The settings of a run: those of its file or of the user, with its options on top. -/
def RunOptions.loading (tree : Tree) (user : Path) : Loading Loaded :=
  Settings.resolve tree user (options.settings.map Path.ofString) options.overrides

def Desk.settings : Except LoadError Settings :=
  ((options.loading desk.tree desk.user).run desk.store).1.map Loaded.settings

/-- The settings in a file, for a command on a desk. -/
def Desk.fileSettings (path : Path) : Except LoadError Settings :=
  ((Settings.load desk.tree (.file path)).run desk.store).1.map Loaded.settings

/-- The clipboard of a run with some settings. -/
def Desk.clipboard (settings : Settings) : Except NotFound Clipboard :=
  ((Session.start settings options.dryRun).access desk.machine).map (·.1)

/-- The desk of a run when it starts to load: with the log set up. -/
def Desk.started : Desk := { desk with log := desk.log.apply options.verbose }

/-- What a run does with its settings, or with the error that the user can mend. -/
def runWith : Except LoadError Settings → Act Unit
  | .error error => refuse error.message
  | .ok settings => do
    let clipboard ← chooseClipboard settings options.dryRun
    let report ← rehearse clipboard settings options.summary
    if report.cancelled then exitWith interruptedStatus

variable {options desk}

/-- A run with a file that does not load has no settings. -/
theorem settings_of_file {file : String} {error : LoadError}
    (hfile : options.settings = some file)
    (h : desk.fileSettings (.ofString file) = .error error) :
    desk.settings options = .error error := by
  unfold Desk.settings RunOptions.loading
  rw [resolve_settings, hfile]
  show desk.fileSettings (.ofString file) >>= _ = _
  rw [h]
  rfl

/-- A run sets up the log and loads its settings before anything else. -/
theorem runEvents_run : (runEvents options).run desk =
    (Command.loading options.loading >>= runWith options).run (desk.started options) := by
  let setup : Act Unit := modify fun desk => { desk with log := desk.log.apply options.verbose }
  have hlog : setup.run desk = (.ok (), desk.started options) := rfl
  unfold runEvents
  rw [Fallible.run_bind_ok hlog]
  refine congrArg (fun next => (Command.loading options.loading >>= next).run _) (funext ?_)
  rintro (error | settings) <;> rfl

/-- An error that the user can mend is explained. -/
theorem runEvents_refused {error : LoadError} (h : desk.settings options = .error error)
    (hmend : error.isConfiguration = true) :
    ∃ lines after, printed desk.width (Messages.errorTemplate error.message.toList) = .ok lines ∧
      (runEvents options).run desk = (.error (.exit 1), after) ∧ Untouched desk lines after := by
  obtain ⟨store, hload⟩ := run_of_settings_error h
  obtain ⟨lines, after, hlines, hrun, hworld, hprinted⟩ :=
    loading_bind_refused (desk.started options) options.loading (runWith options) (fun _ => rfl)
      hload hmend
  exact ⟨lines, after, hlines, runEvents_run.trans hrun, hworld, hprinted⟩

/-- An error that the user cannot mend is raised. -/
theorem runEvents_raised {error : LoadError} (h : desk.settings options = .error error)
    (hmend : error.isConfiguration = false) :
    ∃ after, (runEvents options).run desk = (.error (.fault (.load error)), after) ∧
      Untouched desk [] after := by
  obtain ⟨store, hload⟩ := run_of_settings_error h
  obtain ⟨after, hrun, hworld, hprinted⟩ :=
    loading_bind_raised (desk.started options) options.loading (runWith options) hload hmend
  exact ⟨after, runEvents_run.trans hrun, hworld, hprinted⟩

theorem runWith_ok {settings : Settings} (h : desk.settings options = .ok settings) :
    ∃ store, (runEvents options).run desk =
      (runWith options (.ok settings)).run { desk.started options with store := store } := by
  obtain ⟨loaded, store, hload, rfl⟩ := run_of_settings_ok h
  have hloading : (Command.loading options.loading).run (desk.started options) =
      (.ok (.ok loaded.settings), { desk.started options with store := store }) :=
    loading_ok hload
  exact ⟨store, runEvents_run.trans (Fallible.run_bind_ok hloading)⟩

/-- A run without a clipboard ends as the refusal of it does. -/
theorem runEvents_notFound {settings : Settings} {error : NotFound}
    (h : desk.settings options = .ok settings)
    (hclipboard : desk.clipboard options settings = .error error) :
    ∃ store, ∀ stop after,
      (refuse error.message error.named : Act Clipboard).run
        { desk.started options with store := store } = (.error stop, after) →
      (runEvents options).run desk = (.error stop, after) := by
  obtain ⟨store, hrun⟩ := runWith_ok h
  have haccess : (Session.start settings options.dryRun).access desk.machine = .error error := by
    unfold Desk.clipboard at hclipboard
    cases hfound : (Session.start settings options.dryRun).access desk.machine with
    | error found => rw [hfound] at hclipboard; rw [Except.error.inj hclipboard]
    | ok found => rw [hfound] at hclipboard; cases hclipboard
  have hchoose : (chooseClipboard settings options.dryRun).run
      { desk.started options with store := store } =
        (refuse error.message error.named).run { desk.started options with store := store } :=
    chooseClipboard_refused haccess
  exact ⟨store, fun stop after hrefuse =>
    hrun.trans (Fallible.run_bind_error (hchoose.trans hrefuse))⟩

/-- How a run ends whose events end in some way. -/
def endOf : Except Crash Report → Except Stop Unit
  | .ok report => if report.cancelled then .error (.exit interruptedStatus) else .ok ()
  | .error crash => .error (.fault (.run crash))

section Found

variable {settings : Settings} {clipboard : Clipboard} (h : desk.settings options = .ok settings)
  (hclipboard : desk.clipboard options settings = .ok clipboard)

include h hclipboard

/-- A run that has its clipboard ends as its events do, and leaves their world. -/
theorem runEvents_found {result : Except Crash Report} {world : World}
    (hrehearse : (desk.prepare clipboard).rehearse
      (.printed (progress desk.width options.summary)) settings = (result, world)) :
    ∃ after, (runEvents options).run desk = (endOf result, after) ∧
      after.world = { world with printed := [] } := by
  obtain ⟨store, hrun⟩ := runWith_ok h
  let loaded : Desk := { desk.started options with store := store }
  obtain ⟨⟨found, session, logs⟩, haccess, hfound⟩ := Fallible.map_eq_ok_iff.mp hclipboard
  obtain rfl : found = clipboard := hfound
  have hchoose : (chooseClipboard settings options.dryRun).run loaded = (.ok found, loaded) :=
    chooseClipboard_ok haccess
  let ended : Desk := { loaded with
    world := { world with printed := [] }
    printed := desk.printed ++ textOf world.printed }
  have hended : (rehearse found settings options.summary).run loaded =
      (result.mapError fun crash => .fault (.run crash), ended) := rehearse_run loaded hrehearse
  refine ⟨ended, hrun.trans ((Fallible.run_bind_ok hchoose).trans ?_), rfl⟩
  cases result with
  | error crash => exact Fallible.run_bind_error hended
  | ok report =>
    refine (Fallible.run_bind_ok hended).trans ?_
    cases hcancelled : report.cancelled <;> simp only [endOf, hcancelled] <;> rfl

/-- A run whose clipboard has a name that cannot be printed ends at its header. -/
theorem runEvents_unprintable (hname : canPrint desk.width clipboard.name = false)
    (hlasts : desk.world.lasts settings = true) :
    ∃ after, (runEvents options).run desk =
        (.error (.fault (.run (.markup .unencodable))), after) ∧
      after.world.calls = desk.world.calls ++ [.now desk.world.time] := by
  obtain ⟨time, htime⟩ := World.later_of_lasts hlasts
  have hprepared : canPrint desk.width (desk.prepare clipboard).clipboard.name = false := by
    rwa [Desk.name_prepare]
  have hrehearse :=
    (desk.prepare clipboard).rehearse_unprintable options.summary hprepared htime settings
  obtain ⟨after, hrun, hworld⟩ := runEvents_found h hclipboard hrehearse
  exact ⟨after, hrun, by rw [hworld]; rfl⟩

/-- Any other run that has its clipboard ends in a report, and its status is that of the report. -/
theorem runEvents_ends (hname : canPrint desk.width clipboard.name = true)
    (hmemory : desk.world.crashOn = []) (htool : Outcome.crashed ∉ desk.world.outcomes)
    (hlasts : desk.world.lasts settings = true) :
    ∃ report world after,
      (desk.prepare clipboard).rehearse (.printed (progress desk.width options.summary)) settings =
        (.ok report, world) ∧
      (runEvents options).run desk =
        (if report.cancelled then .error (.exit interruptedStatus) else .ok (), after) ∧
      after.world = { world with printed := [] } := by
  have hprepared : canPrint desk.width (desk.prepare clipboard).clipboard.name = true := by
    rwa [Desk.name_prepare]
  have hshows := shows_progress hprepared options.summary
  obtain ⟨report, world, hrehearse⟩ := World.rehearse_ends hshows hmemory htool hlasts
  obtain ⟨after, hrun, hworld⟩ := runEvents_found h hclipboard hrehearse
  exact ⟨report, world, after, hrehearse, hrun, hworld⟩

end Found

end Run

/-! ### The whole command -/

section Perform

variable {environment : UserSettings.Environment} {arguments : List String} {options : RunOptions}
  {desk after : Desk}

section Outcomes

variable (hread : read desk.readers environment arguments = .ok (.run options))

include hread

theorem perform_refused {error : LoadError} (h : desk.settings options = .error error)
    (hmend : error.isConfiguration = true) :
    (perform environment arguments desk).1 = .status 1 ∧
      RefusedWith desk error.message (perform environment arguments desk).2 := by
  obtain ⟨lines, after, hlines, hrun, huntouched⟩ := runEvents_refused h hmend
  rw [perform_run hread hrun]
  exact ⟨rfl, huntouched.refusedWith hlines⟩

theorem perform_raised {error : LoadError} (h : desk.settings options = .error error)
    (hmend : error.isConfiguration = false) :
    (perform environment arguments desk).1 = .fault (.load error) ∧
      Untouched desk [] (perform environment arguments desk).2 := by
  obtain ⟨after, hrun, huntouched⟩ := runEvents_raised h hmend
  rw [perform_run hread hrun]
  exact ⟨rfl, huntouched⟩

section NotFound

variable {settings : Settings} {error : NotFound} (h : desk.settings options = .ok settings)
  (hclipboard : desk.clipboard options settings = .error error)

include h hclipboard

theorem perform_notFound (hname : canPrint desk.width error.named = true) :
    (perform environment arguments desk).1 = .status 1 ∧
      RefusedWith desk error.message (perform environment arguments desk).2 := by
  obtain ⟨store, hrun⟩ := runEvents_notFound h hclipboard
  let loaded : Desk := { desk.started options with store := store }
  obtain ⟨lines, after, hlines, hrefuse, hworld, hprinted⟩ :=
    refuse_run (α := Clipboard) loaded error.message hname
  have huntouched : Untouched desk lines after := ⟨hworld, hprinted⟩
  rw [perform_run hread (hrun _ _ hrefuse)]
  exact ⟨rfl, huntouched.refusedWith hlines⟩

theorem perform_notFound_raised (hname : canPrint desk.width error.named = false) :
    (perform environment arguments desk).1 = .fault (.markup .unencodable) ∧
      Untouched desk [] (perform environment arguments desk).2 := by
  obtain ⟨store, hrun⟩ := runEvents_notFound h hclipboard
  let loaded : Desk := { desk.started options with store := store }
  have hrefuse := refuse_raised (α := Clipboard) loaded error.message hname
  rw [perform_run hread (hrun _ _ hrefuse)]
  exact ⟨rfl, rfl, (List.append_nil _).symm⟩

theorem code_of_notFound : (perform environment arguments desk).1.code = 1 := by
  cases hname : canPrint desk.width error.named with
  | true => rw [(perform_notFound hread h hclipboard hname).1, Ending.code]
  | false => rw [(perform_notFound_raised hread h hclipboard hname).1, Ending.code]

end NotFound

section Found

variable {settings : Settings} {clipboard : Clipboard} (h : desk.settings options = .ok settings)
  (hclipboard : desk.clipboard options settings = .ok clipboard)
  (hlasts : desk.world.lasts settings = true)

include h hclipboard hlasts

theorem perform_unprintable (hname : canPrint desk.width clipboard.name = false) :
    (perform environment arguments desk).1 = .fault (.run (.markup .unencodable)) ∧
      (perform environment arguments desk).2.world.calls =
        desk.world.calls ++ [.now desk.world.time] := by
  obtain ⟨after, hrun, hcalls⟩ := runEvents_unprintable h hclipboard hname hlasts
  rw [perform_run hread hrun]
  exact ⟨rfl, hcalls⟩

theorem perform_ends (hname : canPrint desk.width clipboard.name = true)
    (hmemory : desk.world.crashOn = []) (htool : Outcome.crashed ∉ desk.world.outcomes) :
    ∃ report world,
      (desk.prepare clipboard).rehearse (.printed (progress desk.width options.summary)) settings =
        (.ok report, world) ∧
      (perform environment arguments desk).2.world = { world with printed := [] } ∧
      (perform environment arguments desk).1 =
        .status (if report.cancelled then interruptedStatus else 0) := by
  obtain ⟨report, world, after, hrehearse, hrun, hworld⟩ :=
    runEvents_ends h hclipboard hname hmemory htool hlasts
  rw [perform_run hread hrun]
  refine ⟨report, world, hrehearse, hworld, ?_⟩
  cases report.cancelled <;> rfl

end Found

end Outcomes

/-- **The exit status of a run.** Let a command line be read as a run, by whatever readers of
numbers, on a machine where the clipboard fails only in the way of writes and the clock lasts. The
status is 1 if and only if the settings cannot be loaded, no clipboard can be had, or the clipboard
has a name that cannot be printed. In the first two cases nothing has been called, and what is
printed is the error and nothing else, or nothing at all where the settings fail in a way that the
user cannot mend by reading about them, or a name in the message cannot be printed. In the last case
the run ends at its header. Otherwise it ends in a report, and the status is 130 if that is
cancelled and 0 if it is not, whatever the failures in it. -/
theorem run_exit_status (hread : read desk.readers environment arguments = .ok (.run options))
    (hmemory : desk.world.crashOn = []) (htool : Outcome.crashed ∉ desk.world.outcomes)
    (hlasts : ∀ settings, desk.settings options = .ok settings →
      desk.world.lasts settings = true) :
    let ending := (perform environment arguments desk).1
    let after := (perform environment arguments desk).2
    (ending.code = 1 ↔
      (∃ error, desk.settings options = .error error) ∨
        ∃ settings, desk.settings options = .ok settings ∧
          ((∃ error, desk.clipboard options settings = .error error) ∨
            ∃ clipboard, desk.clipboard options settings = .ok clipboard ∧
              canPrint desk.width clipboard.name = false)) ∧
    (∀ error, desk.settings options = .error error →
      if error.isConfiguration then ending = .status 1 ∧ RefusedWith desk error.message after
      else ending = .fault (.load error) ∧ Untouched desk [] after) ∧
    (∀ settings error, desk.settings options = .ok settings →
      desk.clipboard options settings = .error error →
      if canPrint desk.width error.named then
        ending = .status 1 ∧ RefusedWith desk error.message after
      else ending = .fault (.markup .unencodable) ∧ Untouched desk [] after) ∧
    (∀ settings clipboard, desk.settings options = .ok settings →
      desk.clipboard options settings = .ok clipboard →
      if canPrint desk.width clipboard.name then
        ∃ report world,
          (desk.prepare clipboard).rehearse (.printed (progress desk.width options.summary))
            settings = (.ok report, world) ∧
          after.world = { world with printed := [] } ∧
          ending = .status (if report.cancelled then interruptedStatus else 0)
      else
        ending = .fault (.run (.markup .unencodable)) ∧
          after.world.calls = desk.world.calls ++ [.now desk.world.time]) := by
  intro ending after
  refine ⟨⟨?only, ?always⟩, fun error hsettings => ?refused,
    fun settings error hsettings hclipboard => ?notFound,
    fun settings clipboard hsettings hclipboard => ?found⟩
  case only =>
    intro hcode
    cases hsettings : desk.settings options with
    | error error => exact .inl ⟨error, rfl⟩
    | ok settings =>
      refine .inr ⟨settings, rfl, ?_⟩
      cases hclipboard : desk.clipboard options settings with
      | error error => exact .inl ⟨error, rfl⟩
      | ok clipboard =>
        refine .inr ⟨clipboard, rfl, Bool.eq_false_iff.mpr fun hname => ?_⟩
        obtain ⟨report, -, -, -, hending⟩ := perform_ends hread hsettings hclipboard
          (hlasts settings hsettings) hname hmemory htool
        have hstatus : (if report.cancelled then interruptedStatus else 0) = 1 :=
          (congrArg Ending.code hending).symm.trans hcode
        cases hcancelled : report.cancelled <;> rw [hcancelled] at hstatus <;> cases hstatus
  case always =>
    rintro (⟨error, hsettings⟩ | ⟨settings, hsettings, ⟨error, hclipboard⟩ |
      ⟨clipboard, hclipboard, hname⟩⟩)
    · cases hmend : error.isConfiguration with
      | true => exact congrArg Ending.code (perform_refused hread hsettings hmend).1
      | false => exact congrArg Ending.code (perform_raised hread hsettings hmend).1
    · exact code_of_notFound hread hsettings hclipboard
    · exact congrArg Ending.code
        (perform_unprintable hread hsettings hclipboard (hlasts settings hsettings) hname).1
  case refused =>
    split
    · next hmend => exact perform_refused hread hsettings hmend
    · next hmend => exact perform_raised hread hsettings (Bool.eq_false_iff.mpr hmend)
  case notFound =>
    split
    · next hname => exact perform_notFound hread hsettings hclipboard hname
    · next hname =>
      exact perform_notFound_raised hread hsettings hclipboard (Bool.eq_false_iff.mpr hname)
  case found =>
    have hlasting := hlasts settings hsettings
    split
    · next hname => exact perform_ends hread hsettings hclipboard hlasting hname hmemory htool
    · next hname =>
      exact perform_unprintable hread hsettings hclipboard hlasting (Bool.eq_false_iff.mpr hname)

/-- A dry run of three events, the number written with a digit of another script, that is told to
stop at the second look at the clock. -/
theorem run_exit_status_dry_run :
    let world : World :=
      ⟨⟨0, by decide⟩, 0, .memory (.empty []), [], [], some ⟨.now, 2⟩, false, [], [], []⟩
    let desk : Desk := ⟨⟨[], []⟩, .empty, Path.ofString "c.json", ⟨"linux", none, []⟩, 80, [], [],
      .fresh, world, [], .plain⟩
    let arguments := ["run", "--dry-run", "--count", "٣"]
    let options : RunOptions := ⟨some 3, none, none, none, none, true, true, false, none⟩
    read desk.readers [] arguments = .ok (.run options) ∧ desk.world.crashOn = [] ∧
      Outcome.crashed ∉ desk.world.outcomes ∧
      (∀ settings, desk.settings options = .ok settings → desk.world.lasts settings = true) ∧
      (perform [] arguments desk).1.code ≠ 1 := by
  intro world desk arguments options
  have hread : read desk.readers [] arguments = .ok (.run options) := by rfl
  have hchecked : (desk.settings options).toOption.all desk.world.lasts = true := by decide +kernel
  have hclipboard : (desk.settings options).toOption.any (fun settings =>
      (desk.clipboard options settings).toOption.any fun clipboard =>
        canPrint desk.width clipboard.name) = true := by decide +kernel
  have hlasts : ∀ settings, desk.settings options = .ok settings →
      desk.world.lasts settings = true := by
    intro settings hsettings
    simpa only [hsettings, Except.toOption, Option.all_some] using hchecked
  have hmemory : desk.world.crashOn = [] := rfl
  have htool : Outcome.crashed ∉ desk.world.outcomes := by decide
  refine ⟨hread, hmemory, htool, hlasts, fun hcode => ?_⟩
  have hrefused := (run_exit_status hread hmemory htool hlasts).1.mp hcode
  obtain ⟨error, hsettings⟩ |
    ⟨settings, hsettings, ⟨error, hfails⟩ | ⟨clipboard, hfound, hname⟩⟩ := hrefused
  · simp [hsettings, Except.toOption] at hclipboard
  · simp [hsettings, hfails, Except.toOption] at hclipboard
  · simp [hsettings, hfound, hname, Except.toOption] at hclipboard

/-- A settings file with a list inside a list five thousand times over is well-formed, but a run
with it ends with 1 although neither its settings are refused nor its clipboard is missing. -/
theorem deep_settings_unexplained :
    let document := Text.Utf8.encode (Json.deepDocument 5000)
    let world : World := ⟨⟨0, by decide⟩, 0, .memory (.empty []), [], [], none, false, [], [], []⟩
    let desk : Desk := ⟨⟨[], [(["deep.json"], .file document)]⟩, .empty, Path.ofString "c.json",
      ⟨"linux", none, []⟩, 80, [], [], .fresh, world, [], .lax⟩
    let options : RunOptions :=
      ⟨none, none, none, none, none, true, true, false, some "deep.json"⟩
    let arguments := ["run", "--dry-run", "--config", "deep.json"]
    read desk.readers [] arguments = .ok (.run options) ∧
      (perform [] arguments desk).1.code = 1 ∧
      ¬((∃ error, desk.settings options = .error error ∧ error.isConfiguration = true) ∨
        ∃ settings error, desk.settings options = .ok settings ∧
          desk.clipboard options settings = .error error) := by
  intro document world desk options arguments
  have hread : read desk.readers [] arguments = .ok (.run options) := by rfl
  have hfile : desk.tree.found? (.ofString "deep.json") = some (.file document) := by rfl
  have hnul : (Path.ofString "deep.json").hasNul = false := by decide
  have hload : desk.fileSettings (.ofString "deep.json") = .error (.tooDeep .list) := by
    refine (load_of_empty rfl hnul).trans ((readSource_file hfile).trans ?_)
    exact ofBytes_deepDocument _ (by decide)
  have hsettings : desk.settings options = .error (.tooDeep .list) := settings_of_file rfl hload
  refine ⟨hread, congrArg Ending.code (perform_raised hread hsettings rfl).1, ?_⟩
  rintro (⟨error, herror, hmend⟩ | ⟨settings, -, hfound, -⟩)
  · rw [← Except.error.inj (hsettings.symm.trans herror)] at hmend
    cases hmend
  · cases hsettings.symm.trans hfound

end Perform

end ClipCadence.Command
