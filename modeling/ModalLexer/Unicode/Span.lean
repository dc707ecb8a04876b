/-!
# Spans of code points

A property of characters is a sorted list of spans.  A span is an arithmetic progression, because cased alphabets
alternate: every second code point is a capital letter.  Membership (`Span.holds`) gives up at the first span that
starts beyond the character, so a property of rare characters costs ASCII text a single comparison.
-/
namespace ModalLexer
namespace Unicode

/-- The code points `first`, `first + step`, and so on up to `last`. -/
structure Span where
  first : Nat
  last : Nat
  step : Nat
  deriving DecidableEq, Repr

namespace Span

def contains (s : Span) (n : Nat) : Bool :=
  decide (s.first ≤ n) && decide (n ≤ s.last) && (n - s.first) % s.step == 0

/-- Whether `n` lies in one of the spans, which come in increasing order. -/
def holds : List Span → Nat → Bool
  | [], _ => false
  | s :: ss, n => if n < s.first then false else s.contains n || holds ss n

end Span
end Unicode
end ModalLexer
