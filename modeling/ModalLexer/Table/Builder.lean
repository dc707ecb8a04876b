import ModalLexer.Table.Basic
import ModalLexer.Table.Fragments
import ModalLexer.Regex.Reader
/-!
# Building rule tables

A builder collects declarations: states, fragments, rules and keywords.  `Builder.build` turns them into a table or says
why it cannot.  Names of states are resolved only then, after the states that patterns name have been declared as well, so
the order of declarations does not matter to them.  Faults are found in this order: too many states, and then rule by
rule an unknown state among those the rule is restricted to, an unknown state to enter, and a fault of the pattern.
-/
namespace ModalLexer

inductive TableError
  | unknownState (name : String)
  | tooManyStates
  | emptyLiteral (rule : String)
  | cyclicFragment (name : Text)
  | invalidPattern (rule : String)
  deriving DecidableEq, Repr

namespace TableError

def maxStates : Nat := 64

def message : TableError → String
  | unknownState n => "unknown state `" ++ n ++ "`"
  | tooManyStates => "too many states: a rule table holds at most " ++ toString maxStates
  | emptyLiteral r => "rule `" ++ r ++ "` has an empty literal pattern"
  | cyclicFragment n => "definition `" ++ String.ofList n ++ "` expands into itself"
  | invalidPattern r => "rule `" ++ r ++ "` has an invalid pattern"

end TableError

/-- A pattern as declared. -/
inductive Shape
  | literal (text : Text)
  | regex (written : Text)
  | scan (f : Recogniser)

/-- The states in which a declared rule is eligible. -/
inductive Scope
  /-- The state that the pattern names, or else the initial state. -/
  | unrestricted
  | everywhere
  | within (names : List String)
  deriving DecidableEq, Repr

/-- The state change of a declared rule. -/
inductive Target
  | stay
  | push (name : String)
  | pop
  deriving DecidableEq, Repr

/-- A rule as declared, its states still being names. -/
structure RuleSpec where
  name : String
  shape : Shape
  kind : Kind
  scope : Scope := .unrestricted
  target : Target := .stay
  unterminated : Bool := false

namespace RuleSpec

def literal (name text : String) (kind : Kind) : RuleSpec := { name, shape := .literal text.toList, kind }

def regex (name pattern : String) (kind : Kind) : RuleSpec := { name, shape := .regex pattern.toList, kind }

def scan (name : String) (f : Recogniser) (kind : Kind) : RuleSpec := { name, shape := .scan f, kind }

def within (r : RuleSpec) (states : List String) : RuleSpec := { r with scope := .within states }

def everywhere (r : RuleSpec) : RuleSpec := { r with scope := .everywhere }

def push (r : RuleSpec) (state : String) : RuleSpec := { r with target := .push state }

def pop (r : RuleSpec) : RuleSpec := { r with target := .pop }

/-- Makes a match an error: the construct it begins is never closed. -/
def unclosed (r : RuleSpec) : RuleSpec := { r with unterminated := true }

/-- The state that the pattern names. -/
def namedState? (r : RuleSpec) : Option String :=
  match r.shape with
  | .regex w => (Fragments.splitState? w).map fun e => String.ofList e.1
  | _ => none

end RuleSpec

/-- A declared state: its name and whether it is balanced. -/
structure StateSpec where
  name : String
  balanced : Bool
  deriving DecidableEq, Repr

structure Builder where
  initial : StateSpec
  /-- The states declared after the initial one. -/
  others : List StateSpec := []
  fragments : Fragments := []
  rules : List RuleSpec := []
  keywords : List String := []

namespace Builder

/-- A builder for tables whose initial state has that name. -/
def new (initial : String) : Builder := { initial := ⟨initial, false⟩ }

def specs (b : Builder) : List StateSpec := b.initial :: b.others

def StateSpec.mark (name : String) (balanced : Bool) (s : StateSpec) : StateSpec :=
  if s.name = name then { s with balanced := s.balanced || balanced } else s

/-- Declares a state.  A state declared before becomes balanced if it is to be balanced now. -/
def declare (b : Builder) (name : String) (balanced : Bool) : Builder :=
  if b.specs.any (·.name == name) then
    { b with initial := StateSpec.mark name balanced b.initial, others := b.others.map (StateSpec.mark name balanced) }
  else { b with others := b.others ++ [⟨name, balanced⟩] }

def state (b : Builder) (name : String) : Builder := b.declare name false

/-- Declares a state whose brackets are balanced and which a closing brace ends. -/
def balancedState (b : Builder) (name : String) : Builder := b.declare name true

def define (b : Builder) (name pattern : String) : Builder :=
  { b with fragments := (name.toList, pattern.toList) :: b.fragments }

def addRules (b : Builder) (rs : List RuleSpec) : Builder := { b with rules := b.rules ++ rs }

def rule (b : Builder) (r : RuleSpec) : Builder := b.addRules [r]

/-- Adds a literal rule for each text, named after it and eligible in `states`. -/
def punctuatorsWithin (b : Builder) (texts states : List String) : Builder :=
  b.addRules (texts.map fun t => (RuleSpec.literal t t .punctuator).within states)

def punctuators (b : Builder) (texts : List String) : Builder := b.punctuatorsWithin texts [b.initial.name]

/-- Identifiers among `words` are keywords. -/
def addKeywords (b : Builder) (words : List String) : Builder :=
  { b with keywords := words.foldl (fun ks w => if ks.contains w then ks else ks ++ [w]) b.keywords }

/-- Declares the states that patterns name. -/
def declareNamed (b : Builder) : Builder :=
  (b.rules.filterMap RuleSpec.namedState?).foldl (fun b name => b.declare name false) b

/-- The declared states, numbered in the order of their declaration. -/
def states (b : Builder) : State × List State :=
  (⟨0, b.initial.name, b.initial.balanced⟩, b.others.zipIdx.map fun e => ⟨e.2 + 1, e.1.name, e.1.balanced⟩)

def resolve (states : List State) (name : String) : Except TableError State :=
  match states.find? (·.name == name) with
  | some s => .ok s
  | none => .error (.unknownState name)

def resolveScope (initial : State) (states : List State) (r : RuleSpec) : Except TableError StateMask :=
  match r.scope with
  | .within names => (names.mapM (resolve states)).map StateMask.ofList
  | .everywhere => .ok .all
  | .unrestricted => match r.namedState? with
    | some name => (resolve states name).map fun s => .ofList [s]
    | none => .ok (.ofList [initial])

def resolveTarget (states : List State) : Target → Except TableError Transition
  | .stay => .ok .stay
  | .push name => (resolve states name).map .push
  | .pop => .ok .pop

/-- The pattern of a rule, anchored at the place where it is tried. -/
def anchored (expanded : Text) : Text := "\\A(?:".toList ++ expanded ++ [')']

/-- The compiled pattern of a rule and the pattern as it was declared, given how expressions are read. -/
def compileShape (read : Text → Option Regex) (fs : Fragments) (name : String) :
    Shape → Except TableError (Pattern × Text)
  | .literal t => if t.isEmpty then .error (.emptyLiteral name) else .ok (.literal t, t)
  | .regex w =>
    let body := match Fragments.splitState? w with
      | some (_, rest) => rest
      | none => w
    match fs.expand body with
    | .error n => .error (.cyclicFragment n)
    | .ok expanded => match read (anchored expanded) with
      | some r => .ok (.regex (anchored expanded) r, w)
      | none => .error (.invalidPattern name)
  | .scan f => .ok (.scan f, "<scan>".toList)

def compile (read : Text → Option Regex) (fs : Fragments) (initial : State) (states : List State) (r : RuleSpec) :
    Except TableError Rule := do
  let mask ← resolveScope initial states r
  let transition ← resolveTarget states r.target
  let (pattern, source) ← compileShape read fs r.name r.shape
  .ok { name := r.name, pattern, kind := r.kind, mask, transition, unterminated := r.unterminated, source }

/-- Makes the table, given how expressions are read. -/
def buildWith (read : Text → Option Regex) (b : Builder) : Except TableError Table :=
  let b := b.declareNamed
  let (initial, others) := b.states
  if TableError.maxStates < others.length + 1 then .error .tooManyStates
  else do
    let rules ← b.rules.mapM (compile read b.fragments initial (initial :: others))
    .ok { initial, others, rules, keywords := b.keywords }

def build (b : Builder) : Except TableError Table := b.buildWith Regex.ofText?

end Builder
end ModalLexer
