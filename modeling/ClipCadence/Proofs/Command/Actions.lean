import ClipCadence.Command.Execute
import ClipCadence.Proofs.Console.Templates
import ClipCadence.Proofs.Fallible

/-!
Actions on a desk: what loading, printing and refusing do to it, and how a command line ends whose
command does. A command that starts by loading settings and does not get them ends there: it refuses
what the user can mend, with the message of the error, and raises what the user cannot, with nothing
said.

Main statements: `loading_bind_refused` and `loading_bind_raised`.
-/

namespace ClipCadence.Command

open Console Files Settings

/-- What is left of a desk when a command ends before it has called anything: it has the same world,
and the given lines have been printed. -/
structure Untouched (desk : Desk) (lines : List Line) (after : Desk) : Prop where
  world : after.world = desk.world
  printed : after.printed = desk.printed ++ textOf lines

/-- What is left of a desk when a command has called nothing and refused something with a message:
nothing else has been printed. A message that may hold an emoji code is not shown as it is. -/
structure RefusedWith (desk : Desk) (message : String) (after : Desk) : Prop where
  world : after.world = desk.world
  printed : Markup.hasEmojiCode message.toList = false →
    ∃ lines, printed desk.width (Messages.errorTemplate message.toList) = .ok lines ∧
      after.printed = desk.printed ++ textOf lines

theorem Untouched.refusedWith {desk after : Desk} {message : String} {lines : List Line}
    (h : Untouched desk lines after)
    (hlines : Console.printed desk.width (Messages.errorTemplate message.toList) = .ok lines) :
    RefusedWith desk message after :=
  ⟨h.world, fun _ => ⟨lines, hlines, h.printed⟩⟩

section Actions

variable {desk : Desk}

theorem get_run : (get : Act Desk).run desk = (.ok desk, desk) := rfl

theorem orRaise_ok {α : Type} (value : α) :
    (orRaise (.ok value)).run desk = (.ok value, desk) := rfl

theorem orRaise_error {α : Type} (error : FileError) :
    (orRaise (.error error) : Act α).run desk = (.error (.fault (.file error)), desk) := rfl

theorem print_run {lines : Nat → Printed} {found : List Line} (h : lines desk.width = .ok found) :
    (print lines).run desk = (.ok (), { desk with printed := desk.printed ++ textOf found }) := by
  unfold print
  rw [Fallible.run_bind_ok get_run, h]
  rfl

theorem print_raised {lines : Nat → Printed} {error : Markup.Error}
    (h : lines desk.width = .error error) :
    (print lines).run desk = (.error (.fault (.markup error)), desk) := by
  unfold print
  rw [Fallible.run_bind_ok get_run, h]
  rfl

theorem printMarkup_run {template : List Char} {lines : List Line}
    (h : printed desk.width template = .ok lines) :
    (printMarkup template).run desk =
      (.ok (), { desk with printed := desk.printed ++ textOf lines }) := by
  unfold printMarkup
  -- Without the function the unifier would look for it inside the template.
  let shown : Nat → Printed := fun width => printed width template
  have hshown : shown desk.width = .ok lines := h
  exact print_run hshown

theorem printMarkup_raised {template : List Char} {error : Markup.Error}
    (h : printed desk.width template = .error error) :
    (printMarkup template).run desk = (.error (.fault (.markup error)), desk) := by
  unfold printMarkup
  let shown : Nat → Printed := fun width => printed width template
  have hshown : shown desk.width = .error error := h
  exact print_raised hshown

/-- A refusal prints its message, ends the command with 1 and changes nothing else. -/
theorem refuse_run {α : Type} (desk : Desk) (message : String) {named : Text.RawText}
    (hnamed : canPrint desk.width named = true) :
    ∃ lines after, printed desk.width (Messages.errorTemplate message.toList) = .ok lines ∧
      (refuse message named : Act α).run desk = (.error (.exit 1), after) ∧
      Untouched desk lines after := by
  obtain ⟨lines, hlines⟩ := errorTemplate_ok desk.width message.toList
  refine ⟨lines, { desk with printed := desk.printed ++ textOf lines }, hlines, ?_, rfl, rfl⟩
  have hexplained : explained message named desk.width = .ok lines := by
    rw [explained, encoded_of_canPrint hnamed, hlines]
  have hprint : (print (explained message named)).run desk =
      (.ok (), { desk with printed := desk.printed ++ textOf lines }) := print_run hexplained
  unfold refuse
  rw [Fallible.run_bind_ok hprint]
  rfl

/-- A refusal that cannot be printed raises the error of the console. -/
theorem refuse_raised {α : Type} (desk : Desk) (message : String) {named : Text.RawText}
    (hnamed : canPrint desk.width named = false) :
    (refuse message named : Act α).run desk = (.error (.fault (.markup .unencodable)), desk) := by
  obtain ⟨lines, hlines⟩ := errorTemplate_ok desk.width message.toList
  have hexplained : explained message named desk.width = .error .unencodable := by
    rw [explained, encoded_unencodable hnamed hlines]
  have hprint : (print (explained message named)).run desk =
      (.error (.fault (.markup .unencodable)), desk) := print_raised hexplained
  unfold refuse
  rw [Fallible.run_bind_error hprint]

/-! ### Loading -/

/-- Loading whose settings are an error ends with it. -/
theorem run_of_settings_error {action : Loading Loaded} {store : Store} {error : LoadError}
    (h : (action.run store).1.map Loaded.settings = .error error) :
    ∃ after, action.run store = (.error error, after) := by
  rcases hrun : action.run store with ⟨found | loaded, after⟩
  · rw [hrun] at h
    exact ⟨after, by rw [Except.error.inj h]⟩
  · rw [hrun] at h
    cases h

theorem run_of_settings_ok {action : Loading Loaded} {store : Store} {settings : Settings}
    (h : (action.run store).1.map Loaded.settings = .ok settings) :
    ∃ loaded after, action.run store = (.ok loaded, after) ∧ loaded.settings = settings := by
  rcases hrun : action.run store with ⟨found | loaded, after⟩
  · rw [hrun] at h
    cases h
  · rw [hrun] at h
    exact ⟨loaded, after, rfl, Except.ok.inj h⟩

section Loading

variable {action : Tree → Path → Loading Loaded} {store : Store}

/-- Loading sets the store, and leaves the rest of the desk as it is. -/
theorem loading_ok {loaded : Loaded}
    (h : (action desk.tree desk.user).run desk.store = (.ok loaded, store)) :
    (loading action).run desk = (.ok (.ok loaded.settings), { desk with store := store }) := by
  unfold loading
  rw [Fallible.run_bind_ok get_run, h]
  rfl

variable {error : LoadError}

theorem loading_refused
    (h : (action desk.tree desk.user).run desk.store = (.error error, store))
    (hmend : error.isConfiguration = true) :
    (loading action).run desk = (.ok (.error error), { desk with store := store }) := by
  unfold loading
  rw [Fallible.run_bind_ok get_run, h]
  dsimp only
  rw [hmend]
  rfl

theorem loading_raised
    (h : (action desk.tree desk.user).run desk.store = (.error error, store))
    (hmend : error.isConfiguration = false) :
    (loading action).run desk = (.error (.fault (.load error)), { desk with store := store }) := by
  unfold loading
  rw [Fallible.run_bind_ok get_run, h]
  dsimp only
  rw [hmend]
  rfl

variable (desk action) (next : Except LoadError Settings → Act Unit)

/-- A command that refuses what the user can mend explains it. -/
theorem loading_bind_refused (hnext : ∀ error, next (.error error) = refuse error.message)
    (h : (action desk.tree desk.user).run desk.store = (.error error, store))
    (hmend : error.isConfiguration = true) :
    ∃ lines after, printed desk.width (Messages.errorTemplate error.message.toList) = .ok lines ∧
      (loading action >>= next).run desk = (.error (.exit 1), after) ∧
      Untouched desk lines after := by
  let loaded : Desk := { desk with store := store }
  have hrun : (loading action >>= next).run desk =
      (refuse error.message : Act Unit).run loaded := by
    rw [Fallible.run_bind_ok (loading_refused h hmend), hnext]
  obtain ⟨lines, after, hlines, hrefuse, hworld, hprinted⟩ :=
    refuse_run (α := Unit) loaded error.message (canPrint_nil _)
  exact ⟨lines, after, hlines, hrun.trans hrefuse, hworld, hprinted⟩

/-- An error that the user cannot mend is raised, whatever the command would have done next. -/
theorem loading_bind_raised
    (h : (action desk.tree desk.user).run desk.store = (.error error, store))
    (hmend : error.isConfiguration = false) :
    ∃ after, (loading action >>= next).run desk = (.error (.fault (.load error)), after) ∧
      Untouched desk [] after :=
  ⟨_, Fallible.run_bind_error (loading_raised h hmend), rfl, (List.append_nil _).symm⟩

end Loading

end Actions

/-! ### Command lines -/

/-- How a command line ends whose command ends in some way. -/
def Ending.ofResult : Except Stop Unit → Ending
  | .ok () => .status 0
  | .error (.exit code) => .status code
  | .error (.fault error) => .fault error

theorem perform_run {environment : UserSettings.Environment} {arguments : List String}
    {request : Request} {desk after : Desk} {result : Except Stop Unit}
    (hread : read desk.readers environment arguments = .ok request)
    (hrun : (execute request).run desk = (result, after)) :
    perform environment arguments desk = (.ofResult result, after) := by
  unfold perform
  rw [hread]
  dsimp only
  rw [hrun]
  obtain (code | fault) | done := result <;> rfl

end ClipCadence.Command
