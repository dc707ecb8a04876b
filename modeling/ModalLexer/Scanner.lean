import ModalLexer.Table.Basic
import ModalLexer.Token
import ModalLexer.Diagnostic
/-!
# Scanning

A scanner is a place in a text: the rest of the text, its location, the stack of entered states, the records of open
brackets, and whether the end has been reached.  One step (`Scanner.step`) finds the match that wins, makes a token of
it and changes the stack as the rule says.  A step sees nothing of the text before its place, and it fails with the
scanner at the place where the failing step began, except that a rule which leaves the bottom state has taken its text
by then.

There is one record of open brackets for each balanced state that has been entered above the bottom, the innermost
first; it is opened when the state is entered and dropped when the state is left.  While the innermost state is
balanced, punctuators of a single character pass through the first record (`Brackets.pass`).  An opener is recorded, a
closer has to fit, and a closing brace with nothing open ends the state whatever its rule says.
-/
namespace ModalLexer

/-- Which kinds are hidden, and how a match is chosen. -/
structure Options where
  skip : KindSet := .trivia
  policy : Policy := .longest
  deriving DecidableEq, Repr

structure Scanner where
  rest : Text
  loc : Location
  stack : StateStack
  /-- The open brackets of the balanced states entered above the bottom, the innermost state first. -/
  records : List Brackets
  finished : Bool
  deriving DecidableEq, Repr

/-- What a step comes to, and the scanner afterwards. -/
inductive Outcome
  | token (t : Token) (after : Scanner)
  | finish (after : Scanner)
  | fail (e : ScanError) (after : Scanner)
  deriving DecidableEq, Repr

/-- Passes a single character at `loc` through a record.  The answer is whether it ends the state of the record, and the
record brought up to date. -/
def Brackets.pass (b : Brackets) (c : Char) (loc : Location) : Except ScanError (Bool × Brackets) :=
  if isOpener c then .ok (false, b.push c loc)
  else if !isCloser c then .ok (false, b)
  else if c = '\x7d' ∧ b.depth = 0 then .ok (true, b)
  else match b.close c with
    | .ok b => .ok (false, b)
    | .error ⟨found, some o⟩ => .error ⟨.wrongCloser o.bracket found loc, o.loc⟩
    | .error ⟨found, none⟩ => .error ⟨.strayCloser found, loc⟩

namespace Scanner

def start (t : Table) (text : Text) (source : String) : Scanner :=
  ⟨text, .start source, .bottom t.initial (.start source), [], false⟩

def bracketDepth (s : Scanner) : Nat :=
  match s.records with
  | [] => 0
  | b :: _ => b.depth

def enter (s : Scanner) (state : State) (loc : Location) : Scanner :=
  { s with
    stack := s.stack.push state loc
    records := if state.balanced then .empty :: s.records else s.records }

/-- Leaves the innermost state, which must not be the bottom one. -/
def leave (s : Scanner) : Except ScanError (State × Scanner) :=
  match s.stack.pop? with
  | some (state, k) =>
    .ok (state, { s with stack := k, records := if state.balanced then s.records.tail else s.records })
  | none => .error ⟨.bottomPopped s.stack.top.state.name, s.loc⟩

/-- Passes a lexeme at the place of the scanner through the first record, if it is a punctuator of one character in a
balanced state.  The answer is whether it ends the state, and the records brought up to date. -/
def balance (s : Scanner) (kind : Kind) (lexeme : Text) : Except ScanError (Bool × List Brackets) :=
  match kind, s.stack.top.state.balanced, lexeme, s.records with
  | .punctuator, true, [c], b :: bs => (b.pass c s.loc).map fun r => (r.1, r.2 :: bs)
  | _, _, _, _ => .ok (false, s.records)

/-- The error of a text that ends while a state is entered: the innermost open bracket of that state is to blame, or
else the place where the state was entered. -/
def unterminated (s : Scanner) : ScanError :=
  let top := s.stack.top
  match if top.state.balanced then s.records.head?.bind Brackets.innermost? else none with
  | some o => ⟨.unclosedBracket o.bracket top.state.name, o.loc⟩
  | none => ⟨.unterminatedState top.state.name, top.openedAt⟩

/-- Carries out a transition after a token, which began at the location its state is entered at. -/
def transit (s : Scanner) (r : Transition) (tok : Token) : Outcome :=
  match r with
  | .stay => .token tok s
  | .push state => .token tok (s.enter state tok.loc)
  | .pop => match s.leave with
    | .ok (_, s) => .token tok s
    | .error e => .fail e s

/-- The scanner behind the next `n` characters. -/
def skipChars (s : Scanner) (n : Nat) : Scanner :=
  { s with rest := s.rest.drop n, loc := s.loc.advance (s.rest.take n) }

def lexeme (s : Scanner) (m : Match) : Text := s.rest.take m.length

/-- The kind of a match, unless it ends a balanced state. -/
def kindOf (t : Table) (s : Scanner) (m : Match) : Kind := t.classify m.rule (s.lexeme m)

/-- The token of a match.  `ends` says that it ends a balanced state. -/
def token (t : Table) (s : Scanner) (m : Match) (ends : Bool) : Token :=
  { kind := if ends then .interpolationEnd else s.kindOf t m
    rule := m.index
    lexeme := s.lexeme m
    bytes := (s.lexeme m).bytes
    loc := s.loc
    state := s.stack.top.state.name }

/-- Takes a match: makes its token, balances brackets and carries out the transition. -/
def take (t : Table) (s : Scanner) (m : Match) : Outcome :=
  if m.rule.unterminated then .fail ⟨.unterminatedRule m.rule.name, s.loc⟩ s
  else match s.balance (s.kindOf t m) (s.lexeme m) with
    | .error e => .fail e s
    | .ok (ends, records) =>
      ({ s with records }.skipChars m.length).transit (if ends then .pop else m.rule.transition) (s.token t m ends)

/-- One step, hidden kinds included. -/
def step (t : Table) (p : Policy) (s : Scanner) : Outcome :=
  match s.rest with
  | [] => if 0 < s.stack.depth then .fail s.unterminated s else .finish { s with finished := true }
  | c :: _ => match t.choose? p s.stack.top.state s.rest with
    | none => .fail ⟨.unexpected c s.stack.top.state.name, s.loc⟩ s
    | some m => s.take t m

end Scanner
end ModalLexer
