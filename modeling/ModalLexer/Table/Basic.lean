import ModalLexer.Rule
/-!
# Rule tables

A table is an ordered list of rules over a list of states, of which the first is the one every scan starts in.  Of the
rules that are eligible in a state and match, `choose?` picks one: under the policy `first` the first of them, and under
`longest` the one that takes most characters, where a literal wins a tie against other patterns and otherwise the earlier
rule wins.  An identifier whose text is a keyword of the table is a keyword (`classify`).
-/
namespace ModalLexer

inductive Policy
  | longest | first
  deriving DecidableEq, Repr

structure Table where
  initial : State
  /-- The states declared after the initial one. -/
  others : List State
  rules : List Rule
  keywords : List String

/-- A rule that matches, its place in the table and the number of characters it takes. -/
structure Match where
  index : Nat
  rule : Rule
  length : Nat

namespace Table

def states (t : Table) : List State := t.initial :: t.others

def state? (t : Table) (name : String) : Option State := t.states.find? (·.name == name)

/-- The first rule of that name and its place in the table. -/
def rule? (t : Table) (name : String) : Option (Nat × Rule) :=
  (t.rules.zipIdx.find? (·.1.name == name)).map fun e => (e.2, e.1)

def ruleNames (t : Table) : List String := t.rules.map (·.name)

/-- The rules eligible in a state, each with its place in the table. -/
def eligible (t : Table) (s : State) : List (Rule × Nat) := t.rules.zipIdx.filter (·.1.mask.contains s)

/-- All matches in a state at the start of `rest`, in the order of the table. -/
def candidates (t : Table) (s : State) (rest : Text) : List Match :=
  (t.eligible s).filterMap fun e => (e.1.pattern.matchLength? rest).map fun n => ⟨e.2, e.1, n⟩

/-- Whether a later match `n` is preferred to an earlier one `m`. -/
def better (m n : Match) : Bool :=
  decide (m.length < n.length) || (m.length == n.length && n.rule.pattern.isLiteral && !m.rule.pattern.isLiteral)

def longest? : List Match → Option Match
  | [] => none
  | m :: ms => some (ms.foldl (fun best n => if better best n then n else best) m)

/-- The match that wins in a state at the start of `rest`. -/
def choose? (t : Table) (p : Policy) (s : State) (rest : Text) : Option Match :=
  match p with
  | .first => (t.candidates s rest).head?
  | .longest => longest? (t.candidates s rest)

def isKeyword (t : Table) (word : Text) : Bool := t.keywords.contains (String.ofList word)

def classify (t : Table) (r : Rule) (lexeme : Text) : Kind :=
  if r.kind = .identifier ∧ t.isKeyword lexeme then .keyword else r.kind

end Table
end ModalLexer
