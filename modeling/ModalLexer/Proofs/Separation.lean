import ModalLexer.Grammar.Slash
import ModalLexer.Proofs.Building
import ModalLexer.Proofs.Opening
import ModalLexer.Proofs.Preference
/-!
# Separation — how a table keeps comments and regular expressions apart

Where a regular expression may come next, its state can be entered before the trivia in front of it or behind them,
because the table sees to it that the trivia are cut the same way in both places (`Table.Separates`).  In the state of
regular expressions there are the same trivia as where code stands, and a match of theirs rules out one of a regular
expression: the first begins with no slash or as a comment does, the second with a slash that begins no comment.
Whether a table does so can be computed, and the table of the ECMAScript grammar does (`Grammar.Ecmascript.separates`).
-/
namespace ModalLexer

def Kind.isTrivia (k : Kind) : Bool := KindSet.trivia.contains k

/-- The state that a transition enters, if any, is among `states`. -/
def Transition.staysIn (states : List State) : Transition → Bool
  | .push q => states.contains q
  | _ => true

namespace Rule

/-- Among code, trivia enter nothing but comments and are trivia before a regular expression as well, and all else
enters nothing but code. -/
def suitsCode (code : List State) (comment regexp : State) (r : Rule) : Bool :=
  if r.kind.isTrivia then r.mask.contains regexp && (r.transition == .stay || r.transition == .push comment)
  else r.transition.staysIn code

/-- Within a comment there is nothing but trivia. -/
def suitsComment (r : Rule) : Bool := r.kind.isTrivia && (r.transition == .stay || r.transition == .pop)

/-- Before a regular expression, trivia begin with no slash or as a comment does, and all else is a regular expression.
-/
def suitsRegexp (r : Rule) : Bool :=
  if r.kind.isTrivia then r.pattern.avoidsSlash || r.pattern.opensComment
  else !r.unterminated && r.transition == .pop && r.pattern.opensRegexp

end Rule

namespace Table

/-- Whether there are trivia or punctuators in a state. -/
def hosts (t : Table) (q : State) : Bool :=
  t.rules.any fun r => r.mask.contains q && (r.kind.isTrivia || r.kind == .punctuator)

/-- **A table in which the state of regular expressions can be entered before trivia or behind them.**  `code` are the
states in which code or the text of a template stands. -/
structure Separates (t : Table) (code : List State) (comment regexp : State) : Prop where
  initial : t.initial ∈ code
  entered : t.state? Grammar.Ecmascript.regexpState = some regexp
  plain : regexp.balanced = false
  inCode : ∀ r ∈ t.rules, ∀ q ∈ code, r.mask.contains q = true → r.suitsCode code comment regexp = true
  inComment : ∀ r ∈ t.rules, r.mask.contains comment = true → r.suitsComment = true
  inRegexp : ∀ r ∈ t.rules, r.mask.contains regexp = true → r.suitsRegexp = true
  shared : ∀ q ∈ code, t.hosts q = true → ∀ r ∈ t.rules, r.mask.contains regexp = true → r.kind.isTrivia = true →
    r.mask.contains q = true

theorem separates_iff {t : Table} {code : List State} {comment regexp : State} :
    t.Separates code comment regexp ↔
      (t.initial ∈ code ∧ t.state? Grammar.Ecmascript.regexpState = some regexp ∧ regexp.balanced = false) ∧
      (∀ r ∈ t.rules, ∀ q ∈ code, r.mask.contains q = true → r.suitsCode code comment regexp = true) ∧
      (∀ r ∈ t.rules, r.mask.contains comment = true → r.suitsComment = true) ∧
      (∀ r ∈ t.rules, r.mask.contains regexp = true → r.suitsRegexp = true) ∧
      ∀ q ∈ code, t.hosts q = true → ∀ r ∈ t.rules, r.mask.contains regexp = true → r.kind.isTrivia = true →
        r.mask.contains q = true :=
  ⟨fun h => ⟨⟨h.initial, h.entered, h.plain⟩, h.inCode, h.inComment, h.inRegexp, h.shared⟩,
    fun ⟨⟨h1, h2, h3⟩, h4, h5, h6, h7⟩ => ⟨h1, h2, h3, h4, h5, h6, h7⟩⟩

instance (t : Table) (code : List State) (comment regexp : State) : Decidable (t.Separates code comment regexp) :=
  decidable_of_iff' _ separates_iff

end Table

namespace Grammar.Ecmascript

/-- The states in which code or the text of a template stands. -/
def codeStates : List State := [⟨0, "DEFAULT", false⟩, ⟨1, templateState, false⟩, ⟨2, interpolationState, true⟩]

def comment : State := ⟨3, commentState, false⟩

def regexp : State := ⟨4, regexpState, false⟩

/-- **The table of the grammar separates comments and regular expressions.** -/
theorem exists_table : ∃ t, ecmascriptTable = .ok t ∧ t.Separates codeStates comment regexp := by
  have hany : (ecmascriptTable.toOption.any fun t => decide (t.Separates codeStates comment regexp)) = true := by
    decide +kernel
  obtain ⟨t, ht, hs⟩ := exists_ok_of_any hany
  exact ⟨t, ht, of_decide_eq_true hs⟩

theorem separates {t : Table} (h : ecmascriptTable = .ok t) : t.Separates codeStates comment regexp := by
  obtain ⟨t', ht', hs⟩ := exists_table
  rw [h] at ht'
  cases ht'
  exact hs

end Grammar.Ecmascript
end ModalLexer
