import ModalLexer.Scanner
/-!
# Sessions

A session scans one text with one table on demand.  Its consumer may ask for the next token or only look at it, enter
and leave states, and change what is hidden.  An observer sees every token that `next` hands out, together with a view
of the session behind the token, and may ask for a pause; a pause stops iteration (`iterate`) but not `next`.  What an
observer remembers is part of the session, so that watching has no effect besides.

Both `next` and `peek` step over hidden kinds (`seek`).  Every token takes at least one character, so as many steps as
there are characters, and one more to see the end, always suffice.  `peek` puts the scanner back where it was.

An error that `next` meets is kept and answers every later call.  One that `peek` meets is not kept, and neither is a
failure to enter or leave a state on demand.
-/
namespace ModalLexer

inductive Signal
  | proceed | pause
  deriving DecidableEq, Repr

/-- What an observer may see of a session. -/
structure View where
  source : Text
  loc : Location
  stack : StateStack
  bracketDepth : Nat
  deriving DecidableEq, Repr

namespace View

def topState (v : View) : String := v.stack.top.state.name

def stateDepth (v : View) : Nat := v.stack.depth

/-- The line of the text that holds the place of the view. -/
def currentLine (v : View) : Text := Text.lineAt v.source v.loc.offset

end View

abbrev Observer (σ : Type) := View → Token → σ → Signal × σ

structure Session (σ : Type) where
  source : Text
  table : Table
  options : Options
  scanner : Scanner
  observer : Option (Observer σ)
  memory : σ
  paused : Bool
  failure : Option ScanError

/-- What a call for a token comes to: a token, nothing at the end of the text, or an error. -/
abbrev Answer := Except ScanError (Option Token)

namespace Session

variable {σ : Type}

/-- A session at the beginning of a text.  `name` is what its locations call the text. -/
def new (table : Table) (source : Text) (name : String) (options : Options) (memory : σ) : Session σ :=
  { source, table, options, scanner := .start table source name, observer := none, memory, paused := false,
    failure := none }

def setSkip (s : Session σ) (skip : KindSet) : Session σ := { s with options := { s.options with skip } }

def setPolicy (s : Session σ) (policy : Policy) : Session σ := { s with options := { s.options with policy } }

def setObserver (s : Session σ) (o : Observer σ) : Session σ := { s with observer := some o }

def clearObserver (s : Session σ) : Session σ := { s with observer := none }

def resume (s : Session σ) : Session σ := { s with paused := false }

def view (s : Session σ) : View := ⟨s.source, s.scanner.loc, s.scanner.stack, s.scanner.bracketDepth⟩

def isFinished (s : Session σ) : Bool := s.scanner.finished

/-- Enters a state at the present place. -/
def pushState (s : Session σ) (name : String) : Except ScanError (Session σ) :=
  match s.table.state? name with
  | some state => .ok { s with scanner := s.scanner.enter state s.scanner.loc }
  | none => .error ⟨.undeclaredState name, s.scanner.loc⟩

def popState (s : Session σ) : Except ScanError (State × Session σ) :=
  s.scanner.leave.map fun r => (r.1, { s with scanner := r.2 })

def notify (s : Session σ) (tok : Token) : Session σ :=
  match s.observer with
  | none => s
  | some o =>
    let (signal, memory) := o s.view tok s.memory
    { s with memory, paused := s.paused || signal == .pause }

@[simp] theorem notify_scanner (s : Session σ) (tok : Token) : (s.notify tok).scanner = s.scanner := by
  unfold notify; split <;> rfl

@[simp] theorem notify_source (s : Session σ) (tok : Token) : (s.notify tok).source = s.source := by
  unfold notify; split <;> rfl

@[simp] theorem notify_table (s : Session σ) (tok : Token) : (s.notify tok).table = s.table := by
  unfold notify; split <;> rfl

@[simp] theorem notify_options (s : Session σ) (tok : Token) : (s.notify tok).options = s.options := by
  unfold notify; split <;> rfl

@[simp] theorem notify_failure (s : Session σ) (tok : Token) : (s.notify tok).failure = s.failure := by
  unfold notify; split <;> rfl

/-- One step of the scanner, hidden kinds included. -/
def step (s : Session σ) : Answer × Session σ :=
  match s.scanner.step s.table s.options.policy with
  | .token tok scanner => (.ok (some tok), { s with scanner })
  | .finish scanner => (.ok none, { s with scanner })
  | .fail e scanner => (.error e, { s with scanner })

/-- Steps until a kind that is not hidden, `fuel` times at most. -/
def seekWithin : (fuel : Nat) → Session σ → Answer × Session σ
  | 0, s => (.ok none, s)
  | n + 1, s => match s.step with
    | (.ok (some tok), s) => if s.options.skip.contains tok.kind then seekWithin n s else (.ok (some tok), s)
    | r => r

/-- Steps until a kind that is not hidden, the end of the text or an error. -/
def seek (s : Session σ) : Answer × Session σ := seekWithin (s.scanner.rest.length + 1) s

def next (s : Session σ) : Answer × Session σ :=
  match s.failure with
  | some e => (.error e, s)
  | none => match s.seek with
    | (.ok (some tok), s) => (.ok (some tok), s.notify tok)
    | (.ok none, s) => (.ok none, s)
    | (.error e, s) => (.error e, { s with failure := some e })

/-- What `next` would answer.  The scanner is put back afterwards. -/
def peek (s : Session σ) : Answer × Session σ :=
  match s.failure with
  | some e => (.error e, s)
  | none =>
    let saved := s.scanner
    let (r, s) := s.seek
    (r, { s with scanner := saved })

/-- One turn of an iteration over the tokens.  There is none while the session is paused or after an error. -/
def iterate (s : Session σ) : Option (Except ScanError Token) × Session σ :=
  if s.paused || s.failure.isSome then (none, s)
  else match s.next with
    | (.ok (some tok), s) => (some (.ok tok), s)
    | (.ok none, s) => (none, s)
    | (.error e, s) => (some (.error e), s)

def iterateWithin : (fuel : Nat) → Session σ → List (Except ScanError Token) × Session σ
  | 0, s => ([], s)
  | n + 1, s => match s.iterate with
    | (none, s) => ([], s)
    | (some r, s) =>
      let (rs, s) := iterateWithin n s
      (r :: rs, s)

/-- Iterates until there is no further turn.  Every turn takes a character or is the last but one. -/
def iterateAll (s : Session σ) : List (Except ScanError Token) × Session σ :=
  iterateWithin (s.scanner.rest.length + 2) s

/-- The tokens up to the end or to an error, and the session then. -/
def runWithin : (fuel : Nat) → Session σ → List Token × Option ScanError × Session σ
  | 0, s => ([], none, s)
  | n + 1, s => match s.next with
    | (.ok none, s) => ([], none, s)
    | (.error e, s) => ([], some e, s)
    | (.ok (some tok), s) =>
      let (toks, r) := runWithin n s
      (tok :: toks, r)

def run (s : Session σ) : List Token × Option ScanError × Session σ := runWithin (s.scanner.rest.length + 1) s

/-- All visible tokens of the rest of the text, or the error that prevents them. -/
def tokens (s : Session σ) : Except ScanError (List Token) :=
  match s.run with
  | (toks, none, _) => .ok toks
  | (_, some e, _) => .error e

end Session

/-- All visible tokens of a text. -/
def Table.tokenize (t : Table) (source : Text) (name : String) (o : Options) : Except ScanError (List Token) :=
  (Session.new t source name o ()).tokens

end ModalLexer
