import ClipCadence.Clipboard.Tool
import ClipCadence.Proofs.Fallible
import Mathlib.Data.List.Infix

/-!
How the tool for a clipboard is chosen. There are three ways to it, and they ask the machine for
different things: a custom command and a tool that is asked for by name must only be installed,
whatever the platform and the display are; a tool that is detected must fit the platform and the
session as well. Whichever way is taken, the program that is chosen is installed.

Main statement: `choice_of_tool`, for all machines and all that settings can ask for.
-/

namespace ClipCadence

open Number Text

namespace Backend

/-! ### Tools that a machine can use -/

/-- The platform of the machine begins with one of those of the tool. -/
def Fits (backend : Backend) (machine : Machine) : Prop :=
  ∃ platform ∈ backend.platforms, platform.toList <+: machine.platform.toList

structure Usable (backend : Backend) (machine : Machine) : Prop where
  fits : backend.Fits machine
  installed : .ofString backend.program ∈ machine.installed
  session : backend.needsWayland = true → ∃ display, machine.wayland = some display ∧ display ≠ ""

/-- The tool can be used, and none that is listed before it can. -/
def FirstUsable (backend : Backend) (machine : Machine) : Prop :=
  ∃ before after, known = before ++ backend :: after ∧ backend.Usable machine ∧
    ∀ earlier ∈ before, ¬earlier.Usable machine

variable {backend : Backend} {machine : Machine}

theorem fits_iff : backend.fits machine = true ↔ backend.Fits machine := by
  simp [fits, Fits]

theorem isInstalled_iff :
    backend.isInstalled machine = true ↔ .ofString backend.program ∈ machine.installed := by
  simp [isInstalled, Machine.has]

theorem isUsable_iff : backend.isUsable machine = true ↔ backend.Usable machine := by
  have hsession : (!backend.needsWayland || machine.onWayland) = true ↔
      (backend.needsWayland = true → ∃ display, machine.wayland = some display ∧ display ≠ "") := by
    cases backend.needsWayland <;> simp [Machine.onWayland, Option.any_eq_true]
  rw [isUsable, isAvailable, Bool.and_eq_true, Bool.and_eq_true, fits_iff, isInstalled_iff,
    hsession]
  constructor
  · rintro ⟨hfits, hwayland, hinstalled⟩
    exact ⟨hfits, hinstalled, hwayland⟩
  · intro h
    exact ⟨h.fits, h.session, h.installed⟩

/-! ### Detection -/

theorem detect_eq_ok_iff_first : detect machine = .ok backend ↔ backend.FirstUsable machine := by
  rw [detect_eq_ok_iff, List.find?_eq_some_iff_append, FirstUsable, isUsable_iff]
  constructor
  · rintro ⟨husable, before, after, hknown, hbefore⟩
    refine ⟨before, after, hknown, husable, fun earlier hearlier hfirst => ?_⟩
    simpa [isUsable_iff.mpr hfirst] using hbefore earlier hearlier
  · rintro ⟨before, after, hknown, husable, hbefore⟩
    refine ⟨husable, before, after, hknown, fun earlier hearlier => ?_⟩
    rw [Bool.not_eq_true', Bool.eq_false_iff, Ne, isUsable_iff]
    exact hbefore earlier hearlier

theorem candidates_eq_nil_iff :
    candidates machine = [] ↔ ∀ backend ∈ known, ¬backend.Fits machine := by
  simp [candidates, List.filter_eq_nil_iff, fits_iff]

theorem find?_usable_eq_none_iff :
    known.find? (·.isUsable machine) = none ↔ ∀ backend ∈ known, ¬backend.Usable machine := by
  simp [List.find?_eq_none, isUsable_iff]

/-- Why no tool is detected: none fits the platform, or none of those that do can be used. -/
theorem detect_eq_error_iff {reason : NotFound} :
    detect machine = .error reason ↔
      (∀ backend ∈ known, ¬backend.Usable machine) ∧
        ((∀ backend ∈ known, ¬backend.Fits machine) ∧ reason = .platform machine.platform ∨
          (∃ backend ∈ known, backend.Fits machine) ∧ reason = .noTool (candidates machine)) := by
  rw [detect, find?_candidates]
  by_cases hfits : ∃ backend ∈ known, backend.Fits machine
  · have hsome : ¬∀ backend ∈ known, ¬backend.Fits machine :=
      fun hnone => hfits.elim fun backend h => hnone backend h.1 h.2
    have hcandidates : (candidates machine).isEmpty = false := by
      rwa [List.isEmpty_eq_false_iff, Ne, candidates_eq_nil_iff]
    rw [hcandidates, if_neg Bool.false_ne_true, ← find?_usable_eq_none_iff]
    cases known.find? (·.isUsable machine) with
    | some backend => simp
    | none => simp [hfits, hsome, eq_comm]
  · have hnone : ∀ backend ∈ known, ¬backend.Fits machine :=
      fun backend hknown hfit => hfits ⟨backend, hknown, hfit⟩
    have hcandidates : (candidates machine).isEmpty = true := by
      rw [List.isEmpty_iff, candidates_eq_nil_iff]
      exact hnone
    rw [hcandidates, if_pos rfl]
    constructor
    · rintro ⟨⟩
      exact ⟨fun backend hknown husable => hnone backend hknown husable.fits, .inl ⟨hnone, rfl⟩⟩
    · rintro ⟨-, ⟨-, rfl⟩ | ⟨hsome, -⟩⟩
      · rfl
      · exact absurd hsome hfits

theorem detect_fails_iff :
    (∃ reason, detect machine = .error reason) ↔ ∀ backend ∈ known, ¬backend.Usable machine := by
  constructor
  · rintro ⟨reason, h⟩
    exact (detect_eq_error_iff.mp h).1
  · intro hnone
    by_cases hfits : ∃ backend ∈ known, backend.Fits machine
    · exact ⟨_, detect_eq_error_iff.mpr ⟨hnone, .inr ⟨hfits, rfl⟩⟩⟩
    · have hunfit : ∀ backend ∈ known, ¬backend.Fits machine :=
        fun backend hknown hfit => hfits ⟨backend, hknown, hfit⟩
      exact ⟨_, detect_eq_error_iff.mpr ⟨hnone, .inl ⟨hunfit, rfl⟩⟩⟩

theorem noTool_message_ne (candidates : List Backend) (platform : String) :
    (NotFound.noTool candidates).message ≠ "Unsupported platform: " ++ platform := by
  have hfirst (listing : String) :
      "No clipboard tool found. Install one of: " ++ listing ++ "." ≠
        "Unsupported platform: " ++ platform := by
    intro h
    simpa using congrArg (fun text => text.toList.head?) h
  exact hfirst (listing candidates)

/-- The reason tells whether any tool fits the platform. -/
theorem message_of_detect {reason : NotFound} (h : detect machine = .error reason) :
    reason.message = "Unsupported platform: " ++ machine.platform ↔
      ∀ backend ∈ known, ¬backend.Fits machine := by
  rcases (detect_eq_error_iff.mp h).2 with ⟨hunfit, rfl⟩ | ⟨⟨backend, hknown, hfit⟩, rfl⟩
  · exact iff_of_true rfl hunfit
  · exact iff_of_false (noTool_message_ne _ _) fun hunfit => hunfit backend hknown hfit

/-! ### Tools by name -/

theorem eq_of_name_eq : ∀ first ∈ known, ∀ second ∈ known, first.name = second.name →
    first = second := by decide

theorem name_ne_empty : ∀ backend ∈ known, RawText.ofString backend.name ≠ [] := by decide

theorem ofName_eq_ok_iff {name : RawText} :
    ofName name = .ok backend ↔ backend ∈ known ∧ .ofString backend.name = name := by
  rw [ofName]
  cases hfound : known.find? fun backend => RawText.ofString backend.name = name with
  | none =>
    have hnone := List.find?_eq_none.mp hfound
    simp only [decide_eq_true_eq] at hnone
    exact ⟨nofun, fun ⟨hknown, hname⟩ => absurd hname (hnone backend hknown)⟩
  | some found =>
    have hname : RawText.ofString found.name = name := by simpa using List.find?_some hfound
    have hknown : found ∈ known := List.mem_of_find?_eq_some hfound
    constructor
    · rintro ⟨⟩
      exact ⟨hknown, hname⟩
    · -- No two tools have the same name.
      rintro ⟨hmem, rfl⟩
      have hsame : found.name = backend.name := by simpa using congrArg RawText.toString? hname
      rw [eq_of_name_eq found hknown backend hmem hsame]

/-- A known tool, with the time that one write may take. -/
def tool (backend : Backend) (timeout : Binary64) : Tool :=
  ⟨.ofString backend.name, backend.argv, timeout⟩

end Backend

namespace Tool

/-- The tool for a clipboard, without what is logged about the choice. -/
def choice (backend : Option RawText) (command : Option Argv) (timeout : Binary64)
    (machine : Machine) : Except NotFound Tool :=
  (resolve backend command timeout machine).map Prod.fst

/-! ### The three ways -/

section Ways

variable {backend : Option RawText} {command : Option Argv} {timeout : Binary64}
  {machine : Machine} {tool : Tool}

theorem choice_custom_iff {program : RawText} {arguments : Argv} :
    choice backend (some (program :: arguments)) timeout machine = .ok tool ↔
      program ∈ machine.installed ∧ tool = ⟨program, program :: arguments, timeout⟩ := by
  by_cases hinstalled : program ∈ machine.installed <;>
    simp [choice, resolve, Machine.has, hinstalled, Except.map, eq_comm]

theorem choice_named_iff {name : RawText} (hname : name ≠ []) :
    choice (some name) none timeout machine = .ok tool ↔
      ∃ found ∈ Backend.known, .ofString found.name = name ∧
        .ofString found.program ∈ machine.installed ∧ tool = found.tool timeout := by
  obtain ⟨first, rest, rfl⟩ := List.exists_cons_of_ne_nil hname
  rw [choice, Fallible.map_eq_ok_iff]
  unfold resolve
  dsimp only
  constructor
  · rintro ⟨⟨chosen, logs⟩, hresolve, rfl⟩
    obtain ⟨found, hfound, hresolve⟩ := Fallible.bind_eq_ok_iff.mp hresolve
    obtain ⟨hknown, hname⟩ := Backend.ofName_eq_ok_iff.mp hfound
    split at hresolve
    · next hinstalled =>
      cases hresolve
      exact ⟨found, hknown, hname, Backend.isInstalled_iff.mp hinstalled, rfl⟩
    · cases hresolve
  · rintro ⟨found, hknown, hname, hinstalled, rfl⟩
    refine ⟨(_, []), ?_, rfl⟩
    rw [Fallible.bind_ok (Backend.ofName_eq_ok_iff.mpr ⟨hknown, hname⟩),
      if_pos (Backend.isInstalled_iff.mpr hinstalled)]

theorem choice_detected (timeout : Binary64) (machine : Machine) :
    choice none none timeout machine = (Backend.detect machine).map (·.tool timeout) := by
  unfold choice resolve
  cases Backend.detect machine <;> rfl

/-- A command without words counts as none, and so does an empty name. -/
theorem choice_of_empty (h : command.getD [] = []) :
    choice backend command timeout machine = choice backend none timeout machine := by
  rcases command with _ | _ | ⟨program, arguments⟩
  · rfl
  · rfl
  · cases h

theorem choice_of_unnamed (h : backend.getD [] = []) :
    choice backend none timeout machine = choice none none timeout machine := by
  rcases backend with _ | _ | ⟨first, rest⟩
  · rfl
  · rfl
  · cases h

end Ways

/-! ### The choice -/

/-- Which tool is chosen on a machine. A command with words in it is taken as it is, whatever tool
is named, if its program is installed. Without one, a name stands for the known tool of that name,
if it is installed. Without either, the first known tool that the machine can use is taken. -/
inductive Chosen (timeout : Binary64) (machine : Machine) :
    Option RawText → Option Argv → Tool → Prop
  | custom (backend : Option RawText) {program : RawText} (arguments : Argv)
      (hinstalled : program ∈ machine.installed) :
      Chosen timeout machine backend (some (program :: arguments))
        ⟨program, program :: arguments, timeout⟩
  | named {command : Option Argv} {found : Backend} (hcommand : command.getD [] = [])
      (hknown : found ∈ Backend.known)
      (hinstalled : .ofString found.program ∈ machine.installed) :
      Chosen timeout machine (some (.ofString found.name)) command (found.tool timeout)
  | detected {backend : Option RawText} {command : Option Argv} {found : Backend}
      (hcommand : command.getD [] = []) (hbackend : backend.getD [] = [])
      (hfirst : found.FirstUsable machine) :
      Chosen timeout machine backend command (found.tool timeout)

section Choice

variable {backend : Option RawText} {command : Option Argv} {timeout : Binary64}
  {machine : Machine} {tool : Tool}

theorem Chosen.installed (h : Chosen timeout machine backend command tool) :
    ∃ program arguments, tool.command = program :: arguments ∧ program ∈ machine.installed := by
  cases h with
  | custom _ arguments hinstalled => exact ⟨_, arguments, rfl, hinstalled⟩
  | named _ _ hinstalled => exact ⟨_, _, rfl, hinstalled⟩
  | detected _ _ hfirst =>
    obtain ⟨-, -, -, husable, -⟩ := hfirst
    exact ⟨_, _, rfl, husable.installed⟩

theorem choice_eq_ok_iff :
    choice backend command timeout machine = .ok tool ↔
      Chosen timeout machine backend command tool := by
  constructor
  · intro h
    by_cases hcommand : command.getD [] = []
    · rw [choice_of_empty hcommand] at h
      by_cases hbackend : backend.getD [] = []
      · rw [choice_of_unnamed hbackend, choice_detected] at h
        obtain ⟨found, hfound, rfl⟩ := Fallible.map_eq_ok_iff.mp h
        exact .detected hcommand hbackend (Backend.detect_eq_ok_iff_first.mp hfound)
      · obtain ⟨name, rfl⟩ : ∃ name, backend = some name :=
          Option.ne_none_iff_exists'.mp fun hnone => hbackend (hnone ▸ rfl)
        obtain ⟨found, hknown, rfl, hinstalled, rfl⟩ := (choice_named_iff hbackend).mp h
        exact .named hcommand hknown hinstalled
    · obtain ⟨words, rfl⟩ : ∃ words, command = some words :=
        Option.ne_none_iff_exists'.mp fun hnone => hcommand (hnone ▸ rfl)
      obtain ⟨program, arguments, rfl⟩ := List.exists_cons_of_ne_nil hcommand
      obtain ⟨hinstalled, rfl⟩ := choice_custom_iff.mp h
      exact .custom backend arguments hinstalled
  · intro h
    cases h with
    | custom _ arguments hinstalled => exact choice_custom_iff.mpr ⟨hinstalled, rfl⟩
    | named hcommand hknown hinstalled =>
      rw [choice_of_empty hcommand, choice_named_iff (Backend.name_ne_empty _ hknown)]
      exact ⟨_, hknown, rfl, hinstalled, rfl⟩
    | detected hcommand hbackend hfirst =>
      rw [choice_of_empty hcommand, choice_of_unnamed hbackend, choice_detected,
        Backend.detect_eq_ok_iff_first.mpr hfirst]
      rfl

/-- Without a command and a name the choice fails for the same reasons as the detection. -/
theorem choice_eq_error_iff {reason : NotFound} (hcommand : command.getD [] = [])
    (hbackend : backend.getD [] = []) :
    choice backend command timeout machine = .error reason ↔
      Backend.detect machine = .error reason := by
  rw [choice_of_empty hcommand, choice_of_unnamed hbackend, choice_detected]
  cases Backend.detect machine <;> simp [Except.map]

end Choice

end Tool

/-- **How the tool is chosen.** The program of a tool that is chosen is installed. Which tool that
is, if any, is what `Tool.Chosen` says. Without words of a command and without a name no tool is
found exactly if the machine can use none that is known, and the reason is an unsupported platform
exactly if none of them fits the platform. -/
theorem choice_of_tool (backend : Option RawText) (command : Option Argv) (timeout : Binary64)
    (machine : Machine) :
    let choice := Tool.choice backend command timeout machine
    (∀ tool, choice = .ok tool →
      ∃ program arguments, tool.command = program :: arguments ∧ program ∈ machine.installed) ∧
    (∀ tool, choice = .ok tool ↔ Tool.Chosen timeout machine backend command tool) ∧
    (command.getD [] = [] → backend.getD [] = [] →
      ((∃ reason, choice = .error reason) ↔ ∀ found ∈ Backend.known, ¬found.Usable machine) ∧
        ∀ reason, choice = .error reason →
          (reason.message = "Unsupported platform: " ++ machine.platform ↔
            ∀ found ∈ Backend.known, ¬found.Fits machine)) := by
  intro choice
  refine ⟨fun tool h => ?_, fun tool => Tool.choice_eq_ok_iff, fun hcommand hbackend => ?_⟩
  · exact (Tool.choice_eq_ok_iff.mp h).installed
  · have hfails (reason : NotFound) :
        choice = .error reason ↔ Backend.detect machine = .error reason :=
      Tool.choice_eq_error_iff hcommand hbackend
    simp only [hfails]
    exact ⟨Backend.detect_fails_iff, fun reason => Backend.message_of_detect⟩

/-- On a machine without a Wayland display the tool for Wayland is passed over, though it is
installed; on a platform that no tool fits the choice fails. -/
theorem choice_of_tool_x11 :
    let machine : Machine := ⟨"linux2", some "", [.ofString "xsel", .ofString "wl-copy"]⟩
    let xsel : Backend := ⟨"xsel", ["--clipboard", "--input"], ["linux", "freebsd"], false⟩
    let strange : Machine := { machine with platform := "plan9" }
    Tool.choice (some []) (some []) (.ofNat 5) machine = .ok (xsel.tool (.ofNat 5)) ∧
      (∃ reason, Tool.choice none none (.ofNat 5) strange = .error reason ∧
        reason.message = "Unsupported platform: plan9") := by
  intro machine xsel strange
  have hfirst : xsel.FirstUsable machine :=
    Backend.detect_eq_ok_iff_first.mp (Backend.detect_eq_ok_iff.mpr (by decide))
  have hchosen := (choice_of_tool (some []) (some []) (.ofNat 5) machine).2.1 (xsel.tool (.ofNat 5))
  have hunfit : ∀ found ∈ Backend.known, ¬found.Fits strange := by
    simp only [← Backend.fits_iff]
    decide
  obtain ⟨hfails, hreason⟩ := (choice_of_tool none none (.ofNat 5) strange).2.2 rfl rfl
  obtain ⟨reason, h⟩ := hfails.mpr fun found hknown husable => hunfit found hknown husable.fits
  refine ⟨hchosen.mpr (.detected rfl rfl hfirst), reason, h, ?_⟩
  exact (hreason reason h).mpr hunfit

end ClipCadence
