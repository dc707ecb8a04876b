import ModalLexer.Grammar.Basic
/-!
# Slashes

In ECMAScript a slash divides where an operand has just ended, and begins a regular expression everywhere else.  The
table cannot tell, so a scan of a whole text does (`Grammar.scan`): it remembers whether the last token that is not
trivia ended an operand, and where none has ended and a slash comes next, it enters the state of regular expressions
first.
-/
namespace ModalLexer
namespace Grammar

/-- Whether a token is read as an operator that begins with a slash. -/
def isSlash (t : Token) : Bool :=
  t.kind == .punctuator && (t.lexeme == ['/'] || t.lexeme == ['/', '='])

/-- Whether an operand ends with a token, so that a slash behind it divides. -/
def endsOperand (t : Token) : Bool :=
  match t.kind with
  | .identifier | .number | .string | .regexp | .templateDelimiter => true
  | .keyword => ["this", "super", "true", "false", "null"].contains (String.ofList t.lexeme)
  | .punctuator => [")", "]", "\x7d", "++", "--"].contains (String.ofList t.lexeme)
  | _ => false

/-- Enters the state of regular expressions if a slash comes next and no operand has ended. -/
def prepare (g : Grammar) (afterOperand : Bool) (s : Session Unit) : Except ScanError (Session Unit) :=
  if g = .ecmascript ∧ !afterOperand then
    match s.peek with
    | (.error e, _) => .error e
    | (.ok (some t), s) => if isSlash t then s.pushState Ecmascript.regexpState else .ok s
    | (.ok none, s) => .ok s
  else .ok s

def operandAfter (afterOperand : Bool) (t : Token) : Bool :=
  if KindSet.trivia.contains t.kind then afterOperand else endsOperand t

def scanWithin (g : Grammar) : (fuel : Nat) → (afterOperand : Bool) → Session Unit → Except ScanError (List Token)
  | 0, _, _ => .ok []
  | n + 1, afterOperand, s => do
    let s ← prepare g afterOperand s
    match s.next with
    | (.error e, _) => .error e
    | (.ok none, _) => .ok []
    | (.ok (some t), s) => do
      let ts ← scanWithin g n (operandAfter afterOperand t) s
      .ok (t :: ts)

/-- All tokens of a text, trivia among them if `all`. -/
def scan (g : Grammar) (source : Text) (name : String) (all : Bool) : Except GrammarError (List Token) :=
  match g.session source name () with
  | .error e => .error e
  | .ok s =>
    let s := if all then s.setSkip .empty else s
    match scanWithin g (source.length + 1) false s with
    | .ok ts => .ok ts
    | .error e => .error (.syntaxError e)

end Grammar
end ModalLexer
