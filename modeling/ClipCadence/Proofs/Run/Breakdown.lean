import ClipCadence.Proofs.Run.Cancellation
import ClipCadence.Proofs.Run.Refusal
import ClipCadence.Run.Rehearsal

/-!
Clipboards that break down. A clipboard may fail in a way that is no failure of a write. A run does
not look at such an error: it is over at once, and the error is its result. Until then it goes like
the run with the mended clipboard, which makes the write that breaks down; this write is the last
of its calls.

In terms of refusals, a clipboard that breaks down refuses the write. So the run is that of the
mended clipboard, cut at the first write that breaks down, and it remains to find this write in it.

Main statement: `breakdown_ends_run`, for all surroundings and a breakdown at any write.
-/

namespace ClipCadence.Run

open Number Text

/-- The call without its answer. -/
def Exchange.asked : Exchange → Call
  | .now moment => .now moment
  | .sleep seconds => .sleep seconds
  | .copy text _ => .copy text
  | .tell notice report => .tell notice report

/-! ### Breakdowns -/

/-- How a clipboard answers that may break down instead. -/
abbrev Fragile (ε : Type) := History → String → Except ε (Except CopyError Unit)

/-- The text of the write at which a clipboard breaks down, and the error. -/
structure Breakdown (ε : Type) where
  text : String
  error : ε

namespace Fragile

variable {ε : Type} (clip : Fragile ε)

/-- The same clipboard, but the writes at which it breaks down succeed. -/
def mended : Answers := fun past text =>
  match clip past text with
  | .ok result => result
  | .error _ => .ok ()

/-- The refusals of a clipboard that breaks down. -/
def refusal : Refusal (Breakdown ε)
  | past, .copy text _ =>
    match clip past text with
    | .ok _ => none
    | .error error => some ⟨text, error⟩
  | _, _ => none

variable {clip} {past : History} {text : String}

theorem mended_of_error {error : ε} (h : clip past text = .error error) :
    clip.mended past text = .ok () := by
  rw [mended, h]

theorem refusal_of_ok {answer result : Except CopyError Unit} (h : clip past text = .ok answer) :
    clip.refusal past (.copy text result) = none := by
  rw [refusal, h]

theorem refusal_of_error {error : ε} {result : Except CopyError Unit}
    (h : clip past text = .error error) :
    clip.refusal past (.copy text result) = some ⟨text, error⟩ := by
  rw [refusal, h]

end Fragile

/-! ### Runs with such a clipboard -/

namespace Surroundings

variable {ε : Type} (env : Surroundings) (clip : Fragile ε)

/-- These surroundings with the clipboard mended. -/
def mended : Surroundings := { env with copy := clip.mended }

/-- The ports to these surroundings and a clipboard that may break down. -/
def portsWith : Ports (Performance (Breakdown ε)) where
  clipboard := env.clipboard
  now := ask fun past => .ok (env.now past, .now (env.now past))
  sleep seconds := ask fun _ => .ok ((), .sleep seconds)
  copy text := ask fun past =>
    match clip past text with
    | .ok result => .ok (result, .copy text result)
    | .error error => .error ⟨text, error⟩
  stopped := ExceptT.mk fun past => (.ok (env.told past), past)
  tell notice report := ask fun _ => .ok ((), .tell notice report)
  log _ := return

/-- The report of a run or the breakdown that ended it, and the calls that were answered. -/
def performWith (s : Settings) : Except (Breakdown ε) Report × History :=
  (ClipCadence.run (env.portsWith clip) s).run []

/-- All calls of such a run: those that were answered, then the one that broke down. -/
def callsWith (s : Settings) : List Call :=
  let ending := env.performWith clip s
  ending.2.map Exchange.asked ++
    match ending.1 with
    | .ok _ => []
    | .error breakdown => [.copy breakdown.text]

theorem portsWith_eq :
    env.portsWith clip = (env.mended clip).portsUnder clip.refusal := by
  have hcopy (text : String) : (env.portsWith clip).copy text =
      ((env.mended clip).portsUnder clip.refusal).copy text := by
    refine congrArg ask (funext fun past => ?_)
    cases h : clip past text with
    | ok result => simp [mended, Fragile.mended, Fragile.refusal, h]
    | error error => simp [Fragile.refusal, h]
  exact congrArg (fun copy => { env.portsWith clip with copy := copy }) (funext hcopy)

theorem performWith_eq (s : Settings) :
    env.performWith clip s = (env.mended clip).performUnder clip.refusal s := by
  rw [performWith, portsWith_eq, performUnder]

end Surroundings

/-! ### The write that breaks down -/

/-- A clipboard that answers the writes of a history before the one of this number, as it likes,
and breaks down at that one. -/
structure Fragile.BreaksAt {ε : Type} (clip : Fragile ε) (history : History) (number : Nat)
    (error : ε) : Prop where
  answers : ∀ before text result after, history = before ++ .copy text result :: after →
    (writes before).length + 1 < number → ∃ answer, clip before text = .ok answer
  breaks : ∀ before text result after, history = before ++ .copy text result :: after →
    (writes before).length + 1 = number → clip before text = .error error

/-- The first write at which a clipboard breaks down is the first call that it refuses. -/
theorem Fragile.BreaksAt.refusedAt {ε : Type} {clip : Fragile ε} {made after : History}
    {text : String} {result : Except CopyError Unit} {number : Nat} {error : ε}
    (h : clip.BreaksAt (made ++ .copy text result :: after) number error)
    (hnumber : (writes made).length + 1 = number) :
    RefusedAt clip.refusal [] (made ++ .copy text result :: after) made ⟨text, error⟩ where
  granted := by
    refine Along.of_forall fun before call rest hsplit => ?_
    cases call with
    | now | sleep | tell => rfl
    | copy first firstResult =>
      have hfewer : (writes before).length + 1 ≤ (writes made).length := by
        rw [hsplit, writes, writes, writesFrom_append, List.length_append, writesFrom,
          List.length_cons]
        omega
      have hwhole : made ++ .copy text result :: after =
          before ++ .copy first firstResult :: (rest ++ .copy text result :: after) := by
        rw [hsplit, List.append_assoc, List.cons_append]
      obtain ⟨answer, hanswer⟩ := h.answers before first firstResult _ hwhole (by omega)
      exact refusal_of_ok hanswer
  refused := ⟨_, after, rfl, refusal_of_error (h.breaks made text result after rfl hnumber)⟩

namespace Surroundings

/-- A run that has not been told to stop before it begins an event comes to the write of this
event. -/
theorem exists_write (env : Surroundings) (s : Settings) {n : Nat} (hn : n < s.count)
    (huntold : ∀ past, past <+: env.history s → (begun past).length ≤ n → env.told past = false) :
    ∃ made text after, env.history s = made ++ .copy text (env.copy made text) :: after ∧
      (writes made).length = n ∧ begun made = List.range' 1 (n + 1) := by
  obtain ⟨replies, hr, -, hhistory, -⟩ := env.course s
  let start := env.now []
  let calls := approach env.clipboard s start replies
  obtain ⟨ending, hhistory⟩ : ∃ ending, env.history s = calls ++ ending := ⟨_, hhistory⟩
  have hlt : n < replies.length := by
    -- A run that ends before the event has found itself told to stop by the check after its last
    -- one, when it has begun no more events than these.
    by_contra hle
    have htold : env.told calls = true := hr.told (by omega)
    have hbegun : (begun calls).length ≤ n := by
      rw [begun_approach, List.length_range']
      omega
    have hearlier : calls <+: env.history s := ⟨ending, hhistory.symm⟩
    exact Bool.noConfusion (htold.symm.trans (huntold calls hearlier hbegun))
  obtain ⟨asked, report, after, hasked, hsplit, -, hresult⟩ :=
    exists_event ⟨ending, hhistory.symm⟩ hlt
  have hlength : (replies.take n).length = n := List.length_take_of_le hlt.le
  rw [hresult] at hsplit
  refine ⟨asked ++ [.now replies[n].moment], _, after, hsplit, ?writes, ?begun⟩
  case writes =>
    rw [hasked, writes, writesFrom_append, writesFrom_append, ← writes, writes_approach,
      List.length_append, List.length_append, length_written, hlength]
    rfl
  case begun =>
    rw [hasked, begun_append, begun_append, begun_approach, hlength, List.range'_concat,
      Nat.one_mul, Nat.add_comm 1]
    exact List.append_nil _

end Surroundings

/-- **An unexpected error ends a run at once.** Let a clipboard answer its first writes with success
or failure and break down at the one of number `k`, where the run has not been told to stop before
it begins event `k`. Then the error is the result of the run. Its calls are those of the run in
which this write succeeds, up to and with this write: there are `k` writes, the last call is the
last of them, and no other event has begun. -/
theorem breakdown_ends_run {ε : Type} (env : Surroundings) (clip : Fragile ε) (s : Settings)
    (k : Nat) (error : ε) (hpos : 1 ≤ k) (hcount : k ≤ s.count)
    (huntold : ∀ past, past <+: (env.mended clip).history s → (begun past).length < k →
      env.told past = false)
    (hbreaks : clip.BreaksAt ((env.mended clip).history s) k error) :
    ∃ made text after,
      (env.mended clip).history s = made ++ .copy text (.ok ()) :: after ∧
        (env.performWith clip s).1.mapError Breakdown.error = .error error ∧
        env.callsWith clip s = (made ++ [.copy text (.ok ())]).map Exchange.asked ∧
        (env.performWith clip s).2 = made ∧
        (writes made).length + 1 = k ∧ begun made = List.range' 1 k := by
  obtain ⟨n, rfl⟩ : ∃ n, k = n + 1 := ⟨k - 1, by omega⟩
  let sound := env.mended clip
  obtain ⟨made, text, after, hhistory, hwrites, hbegun⟩ :=
    sound.exists_write s (Nat.lt_of_succ_le hcount) fun past hpast hle =>
      huntold past hpast (Nat.lt_succ_of_le hle)
  have hnumber : (writes made).length + 1 = n + 1 := congrArg (· + 1) hwrites
  have herror : clip made text = .error error :=
    hbreaks.breaks made text _ after hhistory hnumber
  -- The mended clipboard succeeds where the other one breaks down; its run goes on there.
  have hsuccess : sound.copy made text = .ok () := Fragile.mended_of_error herror
  have hrefused : RefusedAt clip.refusal [] (sound.history s) made ⟨text, error⟩ := by
    rw [hhistory] at hbreaks ⊢
    exact hbreaks.refusedAt hnumber
  have hending : env.performWith clip s = (.error ⟨text, error⟩, made) := by
    rw [env.performWith_eq clip s, Surroundings.performUnder_eq, hrefused.cut_eq]
    rfl
  have hcalls : env.callsWith clip s =
      (made ++ [Exchange.copy text (.ok ())]).map Exchange.asked := by
    rw [Surroundings.callsWith, hending, List.map_append]
    rfl
  rw [hsuccess] at hhistory
  refine ⟨made, text, after, hhistory, ?_, hcalls, ?_, hnumber, hbegun⟩
  · rw [hending]
    rfl
  · rw [hending]

/-- A clipboard that fails once, succeeds once and breaks down at the third write. -/
theorem third_write_breaks_down :
    let env : Surroundings := ⟨[], fun _ => default, fun _ _ => .ok (), fun _ => false⟩
    let clip : Fragile String := fun past _ =>
      match (writes past).length with
      | 0 => .ok (.error (.simulated 1))
      | 1 => .ok (.ok ())
      | _ => .error "bug"
    let s := Settings.defaults
    ∃ made text after,
      (env.mended clip).history s = made ++ .copy text (.ok ()) :: after ∧
        (env.performWith clip s).1.mapError Breakdown.error = .error "bug" ∧
        env.callsWith clip s = (made ++ [.copy text (.ok ())]).map Exchange.asked ∧
        (env.performWith clip s).2 = made ∧
        (writes made).length + 1 = 3 ∧ begun made = List.range' 1 3 := by
  intro env clip s
  refine breakdown_ends_run env clip s 3 "bug" (by decide) (by decide) (fun past _ _ => ?untold)
    ⟨fun before _ _ _ _ hfewer => ?answers, fun before _ _ _ _ hnumber => ?breaks⟩
  case untold => simp [Surroundings.told, env]
  case answers =>
    obtain hnone | hone : (writes before).length = 0 ∨ (writes before).length = 1 := by omega
    · exact ⟨.error (.simulated 1), by simp only [clip, hnone]⟩
    · exact ⟨.ok (), by simp only [clip, hone]⟩
  case breaks =>
    have htwo : (writes before).length = 2 := by omega
    simp only [clip, htwo]

end ClipCadence.Run
