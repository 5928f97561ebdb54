/-!
A set of characters given as a sorted list of closed ranges of code points, the form in which
the character tables of the Unicode standard are published.
-/

namespace ClipCadence.Text

abbrev Spans := List (Nat × Nat)

namespace Spans

def contains (spans : Spans) (code : Nat) : Bool :=
  spans.any fun span => span.1 ≤ code && code ≤ span.2

end Spans

end ClipCadence.Text
