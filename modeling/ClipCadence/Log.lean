/-!
Log records and the set-up of the log. A set-up chooses the level from which on records are
written; the handler that writes them is attached by the first set-up only.
-/

namespace ClipCadence.Log

inductive Level where
  | debug
  | info
  | warning
  | error
  deriving DecidableEq, Repr

namespace Level

def all : List Level := [.debug, .info, .warning, .error]

def name : Level → String
  | .debug => "DEBUG"
  | .info => "INFO"
  | .warning => "WARNING"
  | .error => "ERROR"

def rank : Level → Nat
  | .debug => 10
  | .info => 20
  | .warning => 30
  | .error => 40

end Level

structure Record where
  level : Level
  message : String
  deriving DecidableEq, Repr

structure Setup where
  level : Option Level
  handlers : Nat
  deriving DecidableEq, Repr

namespace Setup

def fresh : Setup := ⟨none, 0⟩

def levelFor (verbose : Bool) : Level := if verbose then .debug else .warning

def apply (verbose : Bool) (setup : Setup) : Setup :=
  ⟨some (levelFor verbose), max 1 setup.handlers⟩

/-- Without a set-up, records below a warning are dropped. -/
def threshold (setup : Setup) : Level := setup.level.getD .warning

def enabled (setup : Setup) (level : Level) : Bool := setup.threshold.rank ≤ level.rank

end Setup

end ClipCadence.Log
