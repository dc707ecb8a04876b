import ModalLexer.Kind
import ModalLexer.State
import ModalLexer.Regex.Match
import ModalLexer.Text.Quoted
/-!
# Rules

A rule says what a piece of text looks like (its pattern), which kind of token it is, in which states the rule is
eligible (its mask) and what happens to the state stack afterwards.  A pattern answers one question: how many characters
at the start of the rest of the text it takes (`Pattern.matchLength?`).  The answer is never zero, so every token is a
piece of the text that can be seen, and scanning comes to an end.
-/
namespace ModalLexer

/-- A recogniser written by hand.  It is given the rest of the text and answers with a number of bytes. -/
abbrev Recogniser := Text → Option Nat

inductive Pattern
  | literal (text : Text)
  /-- An expression and the pattern it was read from. -/
  | regex (written : Text) (r : Regex)
  | scan (f : Recogniser)

namespace Pattern

def isLiteral : Pattern → Bool
  | literal _ => true
  | _ => false

/-- How many characters at the start of `rest` the pattern takes, if any.  A number of bytes that a recogniser gives has
to end between two characters of the text or at its end. -/
def matchLength? (p : Pattern) (rest : Text) : Option Nat :=
  match p with
  | literal t => if !t.isEmpty && t.isPrefixOf rest then some t.length else none
  | regex _ r => (r.matchLength? rest).filter (0 < ·)
  | scan f => match f rest with
    | none => none
    | some n => if n = 0 then none else rest.charsOfBytes? n

def display : Pattern → String
  | literal t => Quoted.ofText t
  | regex w _ => "/" ++ String.ofList w ++ "/"
  | scan _ => "<scan>"

end Pattern

/-- A set of states of one rule table, one bit for each.  There are at most 64 of them. -/
structure StateMask where
  bits : BitVec 64
  deriving DecidableEq, Repr

namespace StateMask

def none : StateMask := ⟨0⟩

/-- Every state, including those that no table has declared. -/
def all : StateMask := ⟨BitVec.allOnes 64⟩

def insert (m : StateMask) (s : State) : StateMask := ⟨m.bits ||| BitVec.twoPow 64 s.id⟩

def contains (m : StateMask) (s : State) : Bool := m.bits.getLsbD s.id

def ofList (ss : List State) : StateMask := ss.foldl insert none

@[simp] theorem contains_none (s : State) : none.contains s = false := by simp [none, contains]

theorem contains_all (s : State) (h : s.id < 64) : all.contains s = true := by
  rw [contains, all, BitVec.getLsbD_allOnes, decide_eq_true h]

theorem contains_insert (m : StateMask) (s t : State) (h : s.id < 64) :
    (m.insert s).contains t = (m.contains t || decide (s.id = t.id)) := by
  rw [contains, insert, BitVec.getLsbD_or, BitVec.getLsbD_twoPow, contains, decide_eq_true h, Bool.true_and]

end StateMask

/-- What happens to the state stack after a token. -/
inductive Transition
  | stay
  | push (s : State)
  | pop
  deriving DecidableEq, Repr

structure Rule where
  name : String
  pattern : Pattern
  kind : Kind
  mask : StateMask
  transition : Transition
  /-- A match means that a construct is not closed, and makes no token. -/
  unterminated : Bool
  /-- The pattern as it was declared. -/
  source : Text

end ModalLexer
