import ModalLexer.Regex.CharClass
/-!
# Regular expressions

The expressions that patterns denote.  Alternatives are ordered, and a repetition says whether it prefers another round
(`greedy`) or prefers to stop, because a pattern denotes the *first* of the matches it could make.  Repetitions with
counts stay counted: `times n` is exactly `n` rounds and `atMost n` up to `n`.  A `plus` makes one round or more, and
`again` is what remains of it after a round; a `star` makes rounds that are never empty, and after one it remains itself.
-/
namespace ModalLexer

/-- Which edges of words a position is tested for. -/
inductive WordEdge
  | boundary | inside | start | stop | startHalf | stopHalf
  deriving DecidableEq, Repr

/-- A test of a position that consumes nothing. -/
inductive Look
  | textStart | textEnd
  | lineStart (crlf : Bool)
  | lineEnd (crlf : Bool)
  | word (edge : WordEdge) (ascii : Bool)
  deriving DecidableEq, Repr

/-- The characters around a position. -/
structure Context where
  before : Option Char
  after : Option Char
  deriving DecidableEq, Repr

def isAsciiWord (c : Char) : Bool := c.isAlphanum || c == '_'

def WordEdge.holds (before after : Bool) : WordEdge → Bool
  | boundary => before != after
  | inside => before == after
  | start => !before && after
  | stop => before && !after
  | startHalf => !before
  | stopHalf => !after

/-- In texts whose lines may end in carriage return and line feed, the place between the two is no line edge. -/
def Look.holds (x : Context) : Look → Bool
  | textStart => x.before.isNone
  | textEnd => x.after.isNone
  | lineStart false => x.before.isNone || x.before == some '\n'
  | lineStart true =>
    x.before.isNone || x.before == some '\n' || (x.before == some '\r' && x.after != some '\n')
  | lineEnd false => x.after.isNone || x.after == some '\n'
  | lineEnd true =>
    x.after.isNone || x.after == some '\r' || (x.after == some '\n' && x.before != some '\r')
  | word edge ascii =>
    let isWord := if ascii then isAsciiWord else Unicode.isWord
    edge.holds (x.before.any isWord) (x.after.any isWord)

inductive Regex
  | empty
  | look (l : Look)
  | set (s : CharClass)
  | seq (a b : Regex)
  | alt (a b : Regex)
  | star (greedy : Bool) (a : Regex)
  | plus (greedy : Bool) (a : Regex)
  | again (greedy : Bool) (a : Regex)
  | times (n : Nat) (a : Regex)
  | atMost (greedy : Bool) (n : Nat) (a : Regex)
  deriving DecidableEq, Repr

namespace Regex

def char (c : Char) : Regex := set (.single c)

def optional (greedy : Bool) (a : Regex) : Regex := atMost greedy 1 a

def seqs : List Regex → Regex
  | [] => empty
  | [a] => a
  | a :: as => seq a (seqs as)

def alts : List Regex → Regex
  | [] => empty
  | [a] => a
  | a :: as => alt a (alts as)

/-- Whether some match is empty. -/
def isNullable : Regex → Bool
  | empty => true
  | look _ => true
  | set _ => false
  | seq a b => a.isNullable && b.isNullable
  | alt a b => a.isNullable || b.isNullable
  | star _ _ => true
  | plus _ a => a.isNullable
  | again _ _ => true
  | times n a => n == 0 || a.isNullable
  | atMost _ _ _ => true

/-- Any number of rounds of `a`.  If a round may be empty, the first is told apart from the others, so that an empty
first round is what its preferences say it is. -/
def anyTimes (greedy : Bool) (a : Regex) : Regex :=
  if a.isNullable then optional greedy (plus greedy a) else star greedy a

/-- From `least` to `most` rounds of `a`, without limit where `most` is absent. -/
def repeats (greedy : Bool) (least : Nat) (most : Option Nat) (a : Regex) : Regex :=
  match most with
  | some m =>
    if m = least then times least a
    else if least = 0 then atMost greedy m a
    else seq (times least a) (atMost greedy (m - least) a)
  | none => match least with
    | 0 => anyTimes greedy a
    | 1 => plus greedy a
    | n + 1 => seq (times n a) (plus greedy a)

end Regex
end ModalLexer
