import ModalLexer.Unicode.Property
import ModalLexer.Unicode.Case
/-!
# Character classes

A character class is kept as it is written: ranges and properties joined by the operations of sets.  What it admits is
given by `contains`, one equation per operation.  Ignoring case is an operation too (`anyCase`): it admits every
counterpart of what its class admits.
-/
namespace ModalLexer

inductive CharClass
  | none
  | range (first last : Char)
  | property (p : Unicode.Property)
  | union (a b : CharClass)
  | inter (a b : CharClass)
  | diff (a b : CharClass)
  | symmDiff (a b : CharClass)
  | compl (a : CharClass)
  | anyCase (a : CharClass)
  deriving DecidableEq, Repr

namespace CharClass

def contains : CharClass → Char → Bool
  | none, _ => false
  | range a b, c => decide (a ≤ c) && decide (c ≤ b)
  | property p, c => p.contains c
  | union a b, c => a.contains c || b.contains c
  | inter a b, c => a.contains c && b.contains c
  | diff a b, c => a.contains c && !b.contains c
  | symmDiff a b, c => a.contains c != b.contains c
  | compl a, c => !a.contains c
  | anyCase a, c => a.contains c || (Unicode.counterparts c).any a.contains

/-- The characters that a class admits, written out. -/
def ranges : CharClass → Unicode.Ranges
  | none => []
  | range a b => if a ≤ b then [⟨a.toNat, b.toNat⟩] else []
  | property p => p.ranges
  | union a b => .union a.ranges b.ranges
  | inter a b => .inter a.ranges b.ranges
  | diff a b => .diff a.ranges b.ranges
  | symmDiff a b => .symmDiff a.ranges b.ranges
  | compl a => .compl a.ranges
  | anyCase a => Unicode.withCounterparts a.ranges

def single (c : Char) : CharClass := range c c

def unions : List CharClass → CharClass
  | [] => none
  | [a] => a
  | a :: as => union a (unions as)

def digit : CharClass := property (.categories [.decimalNumber])

def space : CharClass := property .whiteSpace

def word : CharClass := property .word

/-- ASCII classes by the names they have between `[:` and `:]`. -/
def ascii? (name : String) : Option CharClass :=
  let upper := range 'A' 'Z'
  let lower := range 'a' 'z'
  let digits := range '0' '9'
  match name with
  | "alnum" => some (unions [digits, upper, lower])
  | "alpha" => some (unions [upper, lower])
  | "ascii" => some (range '\x00' '\x7f')
  | "blank" => some (unions [single '\t', single ' '])
  | "cntrl" => some (unions [range '\x00' '\x1f', single '\x7f'])
  | "digit" => some digits
  | "graph" => some (range '!' '~')
  | "lower" => some lower
  | "print" => some (range ' ' '~')
  | "punct" => some (unions [range '!' '/', range ':' '@', range '[' '\x60', range '\x7b' '~'])
  | "space" => some (unions [range '\t' '\r', single ' '])
  | "upper" => some upper
  | "word" => some (unions [digits, upper, single '_', lower])
  | "xdigit" => some (unions [digits, range 'A' 'F', range 'a' 'f'])
  | _ => Option.none

@[simp] theorem contains_single (a c : Char) : (single a).contains c = decide (a = c) := by
  rw [single, contains, Bool.eq_iff_iff]
  simp only [Bool.and_eq_true, decide_eq_true_eq]
  exact ⟨fun h => Char.le_antisymm h.1 h.2, fun h => h ▸ ⟨Char.le_refl a, Char.le_refl a⟩⟩

theorem contains_unions (c : Char) : ∀ as : List CharClass, (unions as).contains c = as.any (·.contains c)
  | [] => rfl
  | [a] => by rw [unions, List.any_cons, List.any_nil, Bool.or_false]
  | a :: b :: as => by
    rw [List.any_cons, ← contains_unions c (b :: as)]
    rfl

end CharClass
end ModalLexer
