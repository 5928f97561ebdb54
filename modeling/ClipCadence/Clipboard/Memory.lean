import ClipCadence.Clipboard.Tool

/-!
A clipboard in memory, for rehearsals. It keeps every text that was written, in order, and can be
told to fail at certain writes, which are counted from one.
-/

namespace ClipCadence

structure Memory where
  failOn : List Int
  history : List String
  calls : Nat
  deriving DecidableEq, Repr

namespace Memory

def name : String := "memory"

def empty (failOn : List Int) : Memory := ⟨failOn, [], 0⟩

def content (memory : Memory) : Option String := memory.history.getLast?

/-- The number of the next write. -/
def next (memory : Memory) : Nat := memory.calls + 1

def failsNext (memory : Memory) : Bool := memory.failOn.contains (memory.next : Int)

def copy (memory : Memory) (text : String) : Except CopyError Unit × Memory :=
  if memory.failsNext then
    (.error (.simulated memory.next), { memory with calls := memory.next })
  else
    (.ok (), { memory with calls := memory.next, history := memory.history ++ [text] })

@[simp] theorem calls_copy (memory : Memory) (text : String) :
    (memory.copy text).2.calls = memory.calls + 1 := by
  simp only [copy, next]
  split <;> rfl

theorem content_copy {memory : Memory} (h : memory.failsNext = false) (text : String) :
    (memory.copy text).2.content = some text := by
  simp [copy, h, content]

end Memory

end ClipCadence
