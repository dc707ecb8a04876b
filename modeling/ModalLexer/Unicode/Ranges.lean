import ModalLexer.Unicode.Span
/-!
# Ranges of code points

A set of characters written out: the ranges of code points it consists of, in increasing order, with a gap between any
two neighbours.  Each set has one such list, and the operations keep to it, so two sets are equal exactly if their lists
are.  The surrogates are no characters: a range may run across them, but a complement neither begins nor ends among them.
-/
namespace ModalLexer
namespace Unicode

/-- The code points from `first` to `last`. -/
structure CodeRange where
  first : Nat
  last : Nat
  deriving DecidableEq, Repr

abbrev Ranges := List CodeRange

def maxCodePoint : Nat := 0x10ffff

namespace Ranges

/-- Whether a code point lies in one of the ranges. -/
def contains (rs : Ranges) (n : Nat) : Bool := rs.any fun r => decide (r.first ≤ n) && decide (n ≤ r.last)

/-- Puts `r` before the ranges that begin at its place or later; `after` merges what follows. -/
def mergeFrom (r : CodeRange) (after : Ranges → Ranges) : Ranges → Ranges
  | [] => r :: after []
  | s :: ss => if s.first < r.first then s :: mergeFrom r after ss else r :: after (s :: ss)

/-- Both lists in one, ordered by where the ranges begin. -/
def merge : Ranges → Ranges → Ranges
  | [], ss => ss
  | r :: rs, ss => mergeFrom r (merge rs) ss

/-- Joins ranges that overlap or touch; `r` is the range being extended. -/
def joinFrom (r : CodeRange) : Ranges → Ranges
  | [] => [r]
  | s :: ss => if s.first ≤ r.last + 1 then joinFrom ⟨r.first, max r.last s.last⟩ ss else r :: joinFrom s ss

def join : Ranges → Ranges
  | [] => []
  | r :: rs => joinFrom r rs

/-- Takes the surrogates off the ends of a range. -/
def trim (r : CodeRange) : Option CodeRange :=
  let first := if 0xd800 ≤ r.first && r.first < 0xe000 then 0xe000 else r.first
  let last := if 0xd800 ≤ r.last && r.last < 0xe000 then 0xd7ff else r.last
  if first ≤ last then some ⟨first, last⟩ else none

/-- What lies between the ranges from `first` on. -/
def gaps (first : Nat) : Ranges → Ranges
  | [] => if first ≤ maxCodePoint then [⟨first, maxCodePoint⟩] else []
  | r :: rs => if first < r.first then ⟨first, r.first - 1⟩ :: gaps (r.last + 1) rs else gaps (r.last + 1) rs

def union (rs ss : Ranges) : Ranges := join (merge rs ss)

def compl (rs : Ranges) : Ranges := (gaps 0 rs).filterMap trim

def inter (rs ss : Ranges) : Ranges := compl (union (compl rs) (compl ss))

def diff (rs ss : Ranges) : Ranges := inter rs (compl ss)

def symmDiff (rs ss : Ranges) : Ranges := union (diff rs ss) (diff ss rs)

def unions (rss : List Ranges) : Ranges := rss.foldl union []

/-- The ranges that increasing code points make. -/
def ofPoints (ns : List Nat) : Ranges := join (ns.map fun n => ⟨n, n⟩)

end Ranges

namespace Span

/-- The code points of a span, in increasing order. -/
def points (s : Span) : List Nat := (List.range ((s.last - s.first) / s.step + 1)).map fun i => s.first + i * s.step

def ranges (s : Span) : Ranges := if s.step = 1 then [⟨s.first, s.last⟩] else Ranges.ofPoints s.points

/-- The ranges of a table of spans. -/
def rangesOf (ss : List Span) : Ranges := Ranges.join (ss.flatMap ranges)

end Span

end Unicode
end ModalLexer
