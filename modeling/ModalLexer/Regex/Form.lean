import ModalLexer.Regex.Basic
/-!
# The form of a pattern

A pattern is simplified as it is read.  Its form has no sequence inside a sequence and no choice inside a choice:
`cat` and `alt` lean to the right, and neighbouring characters make one `run`.  A class of one character is that
character, and a choice between classes is a class.

What the branches of a choice have in common at their beginning is taken out of them (`choice`), so it is matched once
and the branches choose afterwards.  A branch that is nothing but the common beginning prevents that.

`Form.regex` is the expression that a form denotes.  Forms are kept apart from expressions because the size of a pattern
is counted on its form: captures, and repetitions as they were written, matter there and nowhere else.
-/
namespace ModalLexer
namespace Regex

inductive Form
  | empty
  /-- What nothing matches. -/
  | fail
  /-- One character after another, at least one. -/
  | run (t : Text)
  /-- One character of a class that admits at least two. -/
  | set (s : CharClass)
  | look (l : Look)
  | rep (least : Nat) (most : Option Nat) (greedy : Bool) (a : Form)
  /-- A group that captures.  No two groups of a pattern have the same mark. -/
  | capture (mark : Nat) (a : Form)
  | cat (a b : Form)
  | alt (a b : Form)
  deriving DecidableEq, Repr

namespace Form

def ofClass (s : CharClass) : Form :=
  match s.ranges with
  | [] => fail
  | [r] => if r.first = r.last then run [Char.ofNat r.first] else set s
  | _ => set s

def nodes : Form → Nat
  | rep _ _ _ a => a.nodes + 1
  | capture _ a => a.nodes + 1
  | cat a b => a.nodes + b.nodes + 1
  | alt a b => a.nodes + b.nodes + 1
  | _ => 1

/-- Whether every match is empty. -/
def isWidthless : Form → Bool
  | empty => true
  | look _ => true
  | rep _ most _ a => most.isSome && a.isWidthless
  | capture _ a => a.isWidthless
  | cat a b => a.isWidthless && b.isWidthless
  | alt a b => a.isWidthless && b.isWidthless
  | _ => false

/-- A number of characters that every match reads at least.  There is none if some part cannot be matched. -/
def minLength? : Form → Option Nat
  | empty => some 0
  | fail => none
  | run t => some t.length
  | set _ => some 1
  | look _ => some 0
  | rep least _ _ a => a.minLength?.map (· * least)
  | capture _ a => a.minLength?
  | cat a b => match a.minLength?, b.minLength? with
    | some m, some n => some (m + n)
    | _, _ => none
  | alt a b => match a.minLength?, b.minLength? with
    | some m, some n => some (min m n)
    | _, _ => none

/-- Whether `l` holds at the beginning of every match, for want of anything to read before it. -/
def beginsWith (l : Look) : Form → Bool
  | look m => l == m
  | rep least _ _ a => 0 < least && a.beginsWith l
  | capture _ a => a.beginsWith l
  | cat a b => a.beginsWith l || (a.isWidthless && b.beginsWith l)
  | alt a b => a.beginsWith l && b.beginsWith l
  | _ => false

/-- Whether `l` holds at the end of every match. -/
def endsWith (l : Look) : Form → Bool
  | look m => l == m
  | rep least _ _ a => 0 < least && a.endsWith l
  | capture _ a => a.endsWith l
  | cat a b => b.endsWith l || (b.isWidthless && a.endsWith l)
  | alt a b => a.endsWith l && b.endsWith l
  | _ => false

/-- Whether two forms are the same, classes being the same if they admit the same characters. -/
def same : Form → Form → Bool
  | empty, empty => true
  | fail, fail => true
  | run s, run t => s == t
  | set s, set t => s == t || s.ranges == t.ranges
  | look l, look m => l == m
  | rep m n g a, rep m' n' g' b => m == m' && n == n' && g == g' && same a b
  | capture m a, capture n b => m == n && same a b
  | cat a b, cat c d => same a c && same b d
  | alt a b, alt c d => same a c && same b d
  | _, _ => false

/-- The parts of a sequence. -/
def factors : Form → List Form
  | empty => []
  | cat a b => a :: factors b
  | a => [a]

/-- The branches of a choice. -/
def branches : Form → List Form
  | alt a b => a :: branches b
  | a => [a]

/-- Makes neighbouring runs one. -/
def joinRuns : List Form → List Form
  | [] => []
  | run s :: as => match joinRuns as with
    | run t :: bs => run (s ++ t) :: bs
    | bs => run s :: bs
  | a :: as => a :: joinRuns as

def ofFactors : List Form → Form
  | [] => empty
  | [a] => a
  | a :: as => cat a (ofFactors as)

def ofBranches : List Form → Form
  | [] => fail
  | [a] => a
  | a :: as => alt a (ofBranches as)

def sequence (as : List Form) : Form := ofFactors (joinRuns (as.flatMap factors))

/-- The class that admits what the branches match, if each is a single character or each is a class. -/
def asClass? (as : List Form) : Option CharClass :=
  let chars := as.filterMap fun
    | run [c] => some (CharClass.single c)
    | _ => none
  let classes := as.filterMap fun
    | set s => some s
    | fail => some .none
    | _ => none
  if chars.length = as.length then some (.unions chars)
  else if classes.length = as.length then some (.unions classes)
  else none

def commonPrefix : List Form → List Form → List Form
  | a :: as, b :: bs => if same a b then a :: commonPrefix as bs else []
  | _, _ => []

/-- What the branches have in common at their beginning, if each is a sequence. -/
def sharedStart (as : List Form) : List Form :=
  match as.map factors with
  | [] => []
  | fs :: fss => if (fs :: fss).all (1 < ·.length) then fss.foldl commonPrefix fs else []

/-- The choice between branches, the first being preferred.  Each time a common beginning is taken out there is less left,
so `fuel` need not exceed the number of nodes. -/
def choiceWithin : (fuel : Nat) → List Form → Form
  | 0, as => ofBranches as
  | n + 1, as =>
    match as.flatMap branches with
    | [] => fail
    | [a] => a
    | as => match asClass? as with
      | some s => ofClass s
      | none => match sharedStart as with
        | [] => ofBranches as
        | start =>
          let rests := as.map fun a => ofFactors (a.factors.drop start.length)
          sequence (start ++ [choiceWithin n rests])

def choice (as : List Form) : Form := choiceWithin (as.foldr (fun a n => nodes a + n) 1) as

/-- From `least` to `most` rounds of `a`, without limit where `most` is absent.  A widthless round says all it can say the
first time, so repeating it is doing it at most once. -/
def repeated (least : Nat) (most : Option Nat) (greedy : Bool) (a : Form) : Form :=
  let (least, most) := if a.isWidthless then (min least 1, some (min (most.getD 1) 1)) else (least, most)
  if most = some 0 then empty
  else if least = 1 && most = some 1 then a
  else rep least most greedy a

/-- The expression that a form denotes. -/
def regex : Form → Regex
  | empty => .empty
  | fail => .set .none
  | run t => seqs (t.map char)
  | set s => .set s
  | look l => .look l
  | rep least most greedy a => repeats greedy least most a.regex
  | capture _ a => a.regex
  | cat a b => .seq a.regex b.regex
  | alt a b => .alt a.regex b.regex

end Form
end Regex
end ModalLexer
