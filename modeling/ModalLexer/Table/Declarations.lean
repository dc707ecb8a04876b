import ModalLexer.Table.Builder
/-!
# Declarations

Everything a builder may be told, as data: a `Declaration` is one request, and what has been told to a builder in the
course of time is a list of them (`Builder.ofDeclarations`).  A rule is declared by a `RuleDraft`, which begins with a
pattern and a kind, and then says more of the rule bit by bit; what it says later overrides what it said before.
-/
namespace ModalLexer

/-- What may be said of a rule beside its pattern and its kind. -/
inductive Amendment
  | within (states : List String)
  | everywhere
  | push (state : String)
  | pop
  | unclosed
  deriving DecidableEq, Repr

def RuleSpec.amend (r : RuleSpec) : Amendment → RuleSpec
  | .within states => r.within states
  | .everywhere => r.everywhere
  | .push state => r.push state
  | .pop => r.pop
  | .unclosed => r.unclosed

/-- A rule and what is said of it in turn. -/
structure RuleDraft where
  name : String
  shape : Shape
  kind : Kind
  amendments : List Amendment := []

namespace RuleDraft

/-- The rule before anything more is said of it. -/
def bare (d : RuleDraft) : RuleSpec := { name := d.name, shape := d.shape, kind := d.kind }

def spec (d : RuleDraft) : RuleSpec := d.amendments.foldl RuleSpec.amend d.bare

end RuleDraft

inductive Declaration
  | state (name : String)
  | balancedState (name : String)
  | define (name pattern : String)
  | rule (r : RuleDraft)
  | rules (rs : List RuleDraft)
  | punctuators (texts : List String)
  | punctuatorsWithin (texts states : List String)
  | keywords (words : List String)

abbrev Declarations := List Declaration

namespace Builder

/-- Carries out a declaration. -/
def add (b : Builder) : Declaration → Builder
  | .state name => b.state name
  | .balancedState name => b.balancedState name
  | .define name pattern => b.define name pattern
  | .rule r => b.rule r.spec
  | .rules rs => b.addRules (rs.map RuleDraft.spec)
  | .punctuators texts => b.punctuators texts
  | .punctuatorsWithin texts states => b.punctuatorsWithin texts states
  | .keywords words => b.addKeywords words

/-- A builder that has been told declarations in turn. -/
def ofDeclarations (initial : String) (ds : Declarations) : Builder := ds.foldl add (new initial)

theorem ofDeclarations_concat (initial : String) (ds : Declarations) (d : Declaration) :
    ofDeclarations initial (ds ++ [d]) = (ofDeclarations initial ds).add d :=
  List.foldl_append

end Builder
end ModalLexer
