import ClipCadence.Proofs.Command.UnusableFile
import ClipCadence.Proofs.Console.Panels

/-!
What a check of a settings file says. It loads the file and shows the count, the delay and the name
of the tool in a panel. The name is put into the message as it is, so the message is rendered, and
shows the name, if the name can be encoded and holds no markup; a file that loads may still end the
command with 1.

Main statement: `check_reports_loaded`. `check_fails_on_loaded` is a file that loads and for which
the command fails.
-/

namespace ClipCadence.Command

open Console Files Markup Messages Settings Text

/-! ### The message -/

/-- The tool that settings name, or that one is looked for. -/
inductive NamesTool (settings : Settings) : List Char → Prop where
  | given {name : List Char} (hname : settings.backend = some (.ofChars name)) (hsome : name ≠ []) :
    NamesTool settings name
  | auto (hnone : settings.backend.getD [] = []) : NamesTool settings "auto".toList

/-- The message of a check about some tool. -/
def validMessage (settings : Settings) (tool : List Char) : List Char :=
  "✅ Configuration is valid\n\n  Count: [cyan]".toList ++ number settings.count ++
    "[/]\n  Delay: [cyan]".toList ++ settings.delay.brief.toList ++
    "s[/]\n  Backend: [cyan]".toList ++ tool ++ "[/]".toList

theorem validText_eq {settings : Settings} {tool : List Char} (h : NamesTool settings tool) :
    validText settings = .ofChars (validMessage settings tool) := by
  have hshown : (if settings.backend.getD [] = [] then RawText.ofString "auto"
      else settings.backend.getD []) = .ofChars tool := by
    cases h with
    | given hname hsome =>
      have hnonempty : RawText.ofChars tool ≠ [] := mt List.map_eq_nil_iff.mp hsome
      rw [hname, Option.getD_some, if_neg hnonempty]
    | auto hnone => rw [if_pos hnone, RawText.ofString]
  unfold validText validMessage
  dsimp only
  rw [hshown]
  simp only [RawText.ofString, RawText.ofChars, List.map_append, List.append_assoc]

theorem validTemplate_eq {settings : Settings} {tool : List Char} (h : NamesTool settings tool) :
    validTemplate settings = validMessage settings tool := by
  rw [validTemplate, validText_eq h, Glyph.shown, RawText.map_marked_ofChars]

/-- Nothing of a name that can be encoded is left out of the message. -/
theorem showsHalf_valid {settings : Settings} {tool : List Char} (h : NamesTool settings tool) :
    showsHalf (validText settings) = false := by
  simp [showsHalf, validText_eq h]

/-- The lines of the message. -/
def validLines (settings : Settings) (tool : List Char) : List Line := [
  "✅ Configuration is valid".toList,
  [],
  "  Count: ".toList ++ number settings.count,
  "  Delay: ".toList ++ settings.delay.brief.toList ++ ['s'],
  "  Backend: ".toList ++ tool]

section Message

variable (settings : Settings) {tool : List Char}

/-- A value of the message, in its colour. -/
def colored (value : List Char) (rest : List Char) : List Char :=
  bracketed "cyan".toList ++ (value ++ (bracketed ['/'] ++ rest))

theorem settled_colored {value rest : List Char} (h : '[' ∉ value)
    (hrest : ∀ opened, Settled opened rest) (opened : Nat) : Settled opened (colored value rest) :=
  Settled.opening ⟨by decide, by decide⟩ (by decide) ((Settled.closing hrest).append h).settled

theorem shows_colored {value rest shown : List Char} (h : Literal value)
    (hrest : Shows 0 rest shown) : Shows 0 (colored value rest) (value ++ shown) := by
  have hclosing : IsTag ['/'] := ⟨by decide, by decide⟩
  have hopening : IsTag "cyan".toList := ⟨by decide, by decide⟩
  exact (h.shows (hrest.tag hclosing)).tag hopening

theorem validMessage_parts : validMessage settings tool =
    "✅ Configuration is valid\n\n  Count: ".toList ++ colored (number settings.count)
      ("\n  Delay: ".toList ++ colored (settings.delay.brief.toList ++ ['s'])
        ("\n  Backend: ".toList ++ colored tool [])) := by
  have hcount : "✅ Configuration is valid\n\n  Count: [cyan]".toList =
      "✅ Configuration is valid\n\n  Count: ".toList ++ bracketed "cyan".toList := by decide
  have hdelay : "[/]\n  Delay: [cyan]".toList =
      bracketed ['/'] ++ ("\n  Delay: ".toList ++ bracketed "cyan".toList) := by decide
  have htool : "s[/]\n  Backend: [cyan]".toList =
      ['s'] ++ (bracketed ['/'] ++ ("\n  Backend: ".toList ++ bracketed "cyan".toList)) := by decide
  have hend : "[/]".toList = bracketed ['/'] ++ [] := by decide
  unfold validMessage colored
  rw [hcount, hdelay, htool, hend]
  simp only [List.append_assoc]

theorem literal_delay : Literal (settings.delay.brief.toList ++ ['s']) := by
  have hunit : Literal ['s'] := by decide
  exact (literal_brief settings.delay).append hunit

/-- The message is rendered if no bracket stands in the name of the tool. -/
theorem settled_valid (h : '[' ∉ tool) : Settled 0 (validMessage settings tool) := by
  have htool (opened : Nat) : Settled opened ("\n  Backend: ".toList ++ colored tool []) := by
    refine (Settled.append (by decide) (by decide) ?_).settled
    exact settled_colored h (fun opened => (safe_nil opened).settled) opened
  have hdelay (opened : Nat) : Settled opened ("\n  Delay: ".toList ++
      colored (settings.delay.brief.toList ++ ['s'])
        ("\n  Backend: ".toList ++ colored tool [])) := by
    refine (Settled.append (by decide) (by decide) ?_).settled
    exact settled_colored (literal_delay settings).bracket htool opened
  rw [validMessage_parts]
  refine (Settled.append (by decide) (by decide) ?_).settled
  exact settled_colored (literal_number _).bracket hdelay 0

theorem literal_validLines (h : Literal tool) :
    ∀ line ∈ validLines settings tool, Literal line := by
  have hvalid : Literal "✅ Configuration is valid".toList := by decide
  have hempty : Literal [] := by decide
  have hcount : Literal "  Count: ".toList := by decide
  have hdelay : Literal "  Delay: ".toList := by decide
  have htool : Literal "  Backend: ".toList := by decide
  simp only [validLines, List.forall_mem_cons]
  exact ⟨hvalid, hempty, hcount.append (literal_number _), hdelay.append (literal_delay settings),
    htool.append h, fun _ hnone => absurd hnone List.not_mem_nil⟩

/-- A name without markup is shown as it is, at the end of the last line. -/
theorem shows_valid (h : Literal tool) :
    Shows 0 (validMessage settings tool) (List.intercalate ['\n'] (validLines settings tool)) := by
  have hcount : "✅ Configuration is valid\n\n  Count: ".toList =
      "✅ Configuration is valid".toList ++ ('\n' :: '\n' :: "  Count: ".toList) := by decide
  have hdelay : "\n  Delay: ".toList = '\n' :: "  Delay: ".toList := by decide
  have htool : "\n  Backend: ".toList = '\n' :: "  Backend: ".toList := by decide
  have hshows : Shows 0 (validMessage settings tool)
      ("✅ Configuration is valid\n\n  Count: ".toList ++ (number settings.count ++
        ("\n  Delay: ".toList ++ ((settings.delay.brief.toList ++ ['s']) ++
          ("\n  Backend: ".toList ++ (tool ++ [])))))) := by
    rw [validMessage_parts]
    refine Shows.plain (by decide) (by decide) (shows_colored (literal_number _) ?_)
    refine Shows.plain (by decide) (by decide) (shows_colored (literal_delay settings) ?_)
    exact Shows.plain (by decide) (by decide) (shows_colored h (shows_nil 0))
  rw [hcount, hdelay, htool] at hshows
  simpa [validLines, List.intercalate] using hshows

theorem wholeLines_valid (h : Literal tool) :
    wholeLines (List.intercalate ['\n'] (validLines settings tool)) = validLines settings tool := by
  have hliteral := literal_validLines settings h
  refine wholeLines_intercalate (by simp [validLines]) ?_ ?_
  · exact fun line hline => (hliteral line hline).lineFeed
  · exact fun line hline => (hliteral line hline).tab

end Message

/-! ### The whole command -/

section Command

variable {desk : Desk} {file : String}

/-- A file that loads is reported in a panel. -/
theorem validateSettings_loaded {settings : Settings}
    (hpresent : desk.tree.isPresent (.ofString file) = .ok true)
    (h : desk.fileSettings (.ofString file) = .ok settings) :
    ∃ store, (validateSettings file).run desk =
      (checkLoaded (.ok settings)).run { desk with store := store } := by
  obtain ⟨loaded, store, hload, rfl⟩ := run_of_settings_ok h
  have hloading : (loading (loadingFile file)).run desk =
      (.ok (.ok loaded.settings), { desk with store := store }) := loading_ok hload
  exact ⟨store, (validateSettings_present hpresent).trans (Fallible.run_bind_ok hloading)⟩

theorem settled_validTitle : Settled 0 validTitle := by
  have htitle : Safe 0 (validTitle ++ []) := (safe_nil 0).append (by decide)
  rw [List.append_nil] at htitle
  exact htitle.settled

section Ending

variable {environment : UserSettings.Environment} {arguments : List String} {settings : Settings}
  (hread : read desk.readers environment arguments = .ok (.validateSettings file))
  (hpresent : desk.tree.isPresent (.ofString file) = .ok true)
  (h : desk.fileSettings (.ofString file) = .ok settings)

include hread hpresent h

theorem perform_check_printed {lines : List Line}
    (hpanel : validPanel desk.width settings = .ok lines) :
    (perform environment arguments desk).1 = .status 0 ∧
      (perform environment arguments desk).2.printed = desk.printed ++ textOf lines := by
  obtain ⟨store, hrun⟩ := validateSettings_loaded hpresent h
  let checked : Desk := { desk with store := store }
  let panel : Nat → Printed := fun width => validPanel width settings
  have hshown : panel checked.width = .ok lines := hpanel
  have hperform := perform_run hread (hrun.trans (print_run hshown))
  exact ⟨congrArg Prod.fst hperform, congrArg (·.2.printed) hperform⟩

theorem perform_check_raised {error : Markup.Error}
    (hpanel : validPanel desk.width settings = .error error) :
    (perform environment arguments desk).1 = .fault (.markup error) := by
  obtain ⟨store, hrun⟩ := validateSettings_loaded hpresent h
  let checked : Desk := { desk with store := store }
  let panel : Nat → Printed := fun width => validPanel width settings
  have hshown : panel checked.width = .error error := hpanel
  exact congrArg Prod.fst (perform_run hread (hrun.trans (print_raised hshown)))

end Ending

section Panel

variable {settings : Settings} {tool : List Char} {width : Nat}

/-- The panel about settings with a name that can be encoded is that of the message. -/
theorem validPanel_eq (h : NamesTool settings tool) :
    validPanel width settings = successPanel width (validMessage settings tool) validTitle := by
  unfold validPanel
  rw [showsHalf_valid h, validTemplate_eq h]
  rw [Bool.and_false]
  cases successPanel width (validMessage settings tool) validTitle <;> rfl

/-- The panel about settings with a name that is literal shows its lines. -/
theorem validPanel_fits (hnames : NamesTool settings tool) (h : Literal tool) (hwidth : 4 < width)
    (hfits : ∀ line ∈ validLines settings tool, extent line ≤ Panel.inner width) :
    ∃ top shown bottom,
      validPanel width settings = .ok (top :: shown ++ [bottom]) ∧
        List.Forall₂ Framed (validLines settings tool) shown := by
  obtain ⟨text, hrender, hshown⟩ := render_settled (settled_valid settings h.bracket)
  have hchars : text.chars = List.intercalate ['\n'] (validLines settings tool) :=
    render_chars (shows_valid settings h) hrender
  have hlines : wholeLines text.chars = validLines settings tool := by
    rw [hchars, wholeLines_valid settings h]
  have hwhole : Fits (Panel.inner width) text.chars := by
    unfold Fits
    rwa [hlines]
  obtain ⟨top, shown, bottom, hpanel, hframed⟩ :=
    successPanel_fits settled_validTitle hrender hshown hwidth hwhole
  rw [hlines] at hframed
  exact ⟨top, shown, bottom, (validPanel_eq hnames).trans hpanel, hframed⟩

end Panel

end Command

/-- **A check of a settings file.** Let a command line ask to check a file, with nothing loaded yet
and something at its path. If the file does not load with an error that the user can mend, the
status is 1; with any other error the command ends in that. If it loads, the status is 0 and the
panel about its settings is printed, unless the message of the panel cannot be rendered or encoded,
and then the command ends in that error. For a name that can be encoded the panel is printed if no
bracket stands in the name; and if the name is literal, and each line of the message fits, the panel
shows line by line the count, the delay and the name, or that a tool is looked for if there is none.
What is printed is known only for a message in which nothing can be an emoji code. -/
theorem check_reports_loaded {environment : UserSettings.Environment} {arguments : List String}
    {file : String} {desk : Desk}
    (hread : read desk.readers environment arguments = .ok (.validateSettings file))
    (hstore : desk.store.cache = [])
    (hpresent : desk.tree.isPresent (.ofString file) = .ok true) :
    let loaded := desk.fileSettings (.ofString file)
    let ending := (perform environment arguments desk).1
    let printed := (perform environment arguments desk).2.printed
    (∀ error, loaded = .error error →
      (error.isConfiguration = true → ending = .status 1) ∧
      (error.isConfiguration = false → ending = .fault (.load error))) ∧
    ∀ settings, loaded = .ok settings →
      (∀ lines, validPanel desk.width settings = .ok lines → ending = .status 0 ∧
        (hasEmojiCode (validTemplate settings) = false →
          printed = desk.printed ++ textOf lines)) ∧
      (∀ error, validPanel desk.width settings = .error error →
        ending = .fault (.markup error)) ∧
      ∀ tool, NamesTool settings tool →
        ('[' ∉ tool → ending = .status 0) ∧
        (Literal tool → 4 < desk.width →
          (∀ line ∈ validLines settings tool,
            extent line ≤ Panel.inner desk.width ∧ hasEmojiCode line = false) →
          ∃ top shown bottom, printed = desk.printed ++ textOf (top :: shown ++ [bottom]) ∧
            List.Forall₂ Framed (validLines settings tool) shown) := by
  intro loaded ending printed
  have hends {result : Except Stop Unit} {left : Desk}
      (hrun : (validateSettings file).run desk = (result, left)) :
      ending = .ofResult result ∧ printed = left.printed := by
    have hperform := perform_run hread hrun
    exact ⟨congrArg Prod.fst hperform, congrArg (·.2.printed) hperform⟩
  refine ⟨fun error h => ⟨fun hmend => ?refused, fun hmend => ?raised⟩, fun settings h => ?loaded⟩
  case refused =>
    obtain ⟨-, after, -, hrun, -⟩ := validateSettings_refused hstore h hmend
    exact (hends hrun).1
  case raised =>
    obtain ⟨store, hload⟩ := run_of_settings_error h
    have hloading : (loading (loadingFile file)).run desk =
        (.error (.fault (.load error)), { desk with store := store }) := loading_raised hload hmend
    have hrun := (validateSettings_present hpresent).trans (Fallible.run_bind_error hloading)
    exact (hends hrun).1
  case loaded =>
    refine ⟨fun lines hpanel => ?panel, fun error => perform_check_raised hread hpresent h,
      fun tool htool => ⟨?_, ?_⟩⟩
    case panel =>
      obtain ⟨hending, hprinted⟩ := perform_check_printed hread hpresent h hpanel
      exact ⟨hending, fun _ => hprinted⟩
    · intro hbracket
      obtain ⟨lines, hpanel⟩ :=
        successPanel_ok (settled_valid settings hbracket) settled_validTitle desk.width
      rw [← validPanel_eq htool] at hpanel
      exact (perform_check_printed hread hpresent h hpanel).1
    · intro hliteral hwidth hfits
      obtain ⟨top, shown, bottom, hpanel, hframed⟩ :=
        validPanel_fits htool hliteral hwidth fun line hline => (hfits line hline).1
      exact ⟨top, shown, bottom, (perform_check_printed hread hpresent h hpanel).2, hframed⟩

/-- A file that names a tool. -/
theorem check_reports_named :
    let document := "\x7b\"backend\": \"xsel\"\x7d".toList
    let world : World := ⟨⟨0, by decide⟩, 0, .memory (.empty []), [], [], none, false, [], [], []⟩
    let desk : Desk := ⟨⟨[], [(["c.json"], .file (Utf8.encode document))]⟩, .empty,
      Path.ofString "user.json", ⟨"linux", none, []⟩, 80, [], [], .fresh, world, [], .lax⟩
    let arguments := ["config", "validate", "c.json"]
    read desk.readers [] arguments = .ok (.validateSettings "c.json") ∧ desk.store.cache = [] ∧
      desk.tree.isPresent (.ofString "c.json") = .ok true ∧
      (perform [] arguments desk).1 = .status 0 ∧
      ∃ settings top shown bottom, desk.fileSettings (.ofString "c.json") = .ok settings ∧
        (perform [] arguments desk).2.printed =
          desk.printed ++ textOf (top :: shown ++ [bottom]) ∧
        List.Forall₂ Framed (validLines settings "xsel".toList) shown := by
  intro document world desk arguments
  have hread : read desk.readers [] arguments = .ok (.validateSettings "c.json") := by rfl
  have hpresent : desk.tree.isPresent (.ofString "c.json") = .ok true := by rfl
  let settings : Settings := { defaults with backend := some (.ofString "xsel") }
  have hfound : (desk.fileSettings (.ofString "c.json")).toOption = some settings := by
    decide +kernel
  have hloaded := Fallible.toOption_eq_some_iff.mp hfound
  have hnames : NamesTool settings "xsel".toList := .given rfl (by decide)
  have hfits : ∀ line ∈ validLines settings "xsel".toList,
      extent line ≤ Panel.inner desk.width ∧ hasEmojiCode line = false := by decide +kernel
  have hliteral : Literal "xsel".toList := by decide
  obtain ⟨hstatus, hlines⟩ :=
    ((check_reports_loaded hread rfl hpresent).2 settings hloaded).2.2 _ hnames
  obtain ⟨top, shown, bottom, hprinted, hframed⟩ := hlines hliteral (by decide) hfits
  exact ⟨hread, rfl, hpresent, hstatus (by decide), settings, top, shown, bottom, hloaded, hprinted,
    hframed⟩

/-- A file that loads, with a closing tag as the name of its tool: the command ends with 1. -/
theorem check_fails_on_loaded :
    let document := "\x7b\"backend\": \"[/]\"\x7d".toList
    let world : World := ⟨⟨0, by decide⟩, 0, .memory (.empty []), [], [], none, false, [], [], []⟩
    let desk : Desk := ⟨⟨[], [(["c.json"], .file (Utf8.encode document))]⟩, .empty,
      Path.ofString "user.json", ⟨"linux", none, []⟩, 80, [], [], .fresh, world, [], .lax⟩
    let arguments := ["config", "validate", "c.json"]
    read desk.readers [] arguments = .ok (.validateSettings "c.json") ∧ desk.store.cache = [] ∧
      (∃ settings, desk.fileSettings (.ofString "c.json") = .ok settings ∧
        settings.backend = some (.ofString "[/]")) ∧
      (perform [] arguments desk).1.code = 1 := by
  intro document world desk arguments
  have hread : read desk.readers [] arguments = .ok (.validateSettings "c.json") := by rfl
  have hpresent : desk.tree.isPresent (.ofString "c.json") = .ok true := by rfl
  let settings : Settings := { defaults with backend := some (.ofString "[/]") }
  have hfound : (desk.fileSettings (.ofString "c.json")).toOption = some settings := by
    decide +kernel
  have hloaded := Fallible.toOption_eq_some_iff.mp hfound
  have hnames : NamesTool settings "[/]".toList := .given rfl (by decide)
  have hcloses : overcloses 0 (tokens (validMessage settings "[/]".toList)) = true := by
    decide +kernel
  obtain ⟨position, hrender⟩ := render_overcloses hcloses
  have hpanel : validPanel desk.width settings = .error (.nothingToClose position) :=
    (validPanel_eq hnames).trans (successPanel_raised hrender settled_validTitle (by decide))
  have hending := perform_check_raised hread hpresent hloaded hpanel
  exact ⟨hread, rfl, ⟨settings, hloaded, rfl⟩, congrArg Ending.code hending⟩

end ClipCadence.Command
