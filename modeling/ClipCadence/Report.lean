import ClipCadence.Event.ContentType
import ClipCadence.Moment
import ClipCadence.Number.Binary64

/-!
The report of a run: how many events were asked for and attempted, what kinds of content reached
the clipboard, and which writes failed. The kinds are counted in the order in which they first
occur.
-/

namespace ClipCadence

open Number

structure Failure where
  index : Int
  payload : String
  error : String
  deriving DecidableEq, Repr

abbrev Tally := List (ContentType × Nat)

namespace Tally

def add (kind : ContentType) : Tally → Tally
  | [] => [(kind, 1)]
  | (k, n) :: rest => if k = kind then (k, n + 1) :: rest else (k, n) :: add kind rest

def total : Tally → Nat
  | [] => 0
  | (_, n) :: rest => n + total rest

@[simp] theorem total_add (kind : ContentType) (tally : Tally) :
    total (add kind tally) = total tally + 1 := by
  induction tally with
  | nil => simp [add, total]
  | cons entry rest ih =>
    by_cases h : entry.1 = kind
    · simp only [add, total, h, if_true]
      omega
    · simp only [add, total, h, if_false, ih]
      omega

end Tally

structure Report where
  requested : Int
  attempted : Nat
  succeeded : Nat
  failures : List Failure
  tally : Tally
  cancelled : Bool
  started : Option Moment
  finished : Option Moment
  deriving DecidableEq

namespace Report

def empty (requested : Int) (started : Option Moment) : Report :=
  ⟨requested, 0, 0, [], [], false, started, none⟩

def recordSuccess (report : Report) (kind : ContentType) : Report :=
  { report with
    attempted := report.attempted + 1
    succeeded := report.succeeded + 1
    tally := report.tally.add kind }

def recordFailure (report : Report) (failure : Failure) : Report :=
  { report with
    attempted := report.attempted + 1
    failures := report.failures ++ [failure] }

def failed (report : Report) : Nat := report.failures.length

def completed (report : Report) : Bool := !report.cancelled && report.attempted = report.requested

/-- The microseconds that a finished run took. -/
def micros (report : Report) : Int :=
  match report.started, report.finished with
  | some started, some finished => started.elapsed finished
  | _, _ => 0

/-- The length of a run in seconds. -/
def duration (report : Report) : Binary64 := .ofMicros report.micros

end Report

end ClipCadence
