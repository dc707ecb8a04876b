import ModalLexer.Text.Quoted
import ModalLexer.Brackets
/-!
# What can go wrong while scanning

A scan fails for a `Cause`; a `ScanError` says where.  Causes fall into five kinds, and each has one wording
(`Cause.message`).  A `Diagnostic` is the form in which an error is shown: its kind, its place and its message, with the
offending line and a caret below the column (`Diagnostic.caret`).
-/
namespace ModalLexer

inductive ErrorKind
  | noRuleMatched | unterminatedConstruct | balancerMismatch | stateUnderflow | unknownState
  deriving DecidableEq, Repr

namespace ErrorKind

def all : List ErrorKind :=
  [.noRuleMatched, .unterminatedConstruct, .balancerMismatch, .stateUnderflow, .unknownState]

def describe : ErrorKind → String
  | noRuleMatched => "no rule matched"
  | unterminatedConstruct => "unterminated construct"
  | balancerMismatch => "bracket mismatch"
  | stateUnderflow => "state underflow"
  | unknownState => "unknown state"

end ErrorKind

inductive Cause
  /-- No eligible rule matches at `found`. -/
  | unexpected (found : Char) (state : String)
  /-- A rule for the unclosed form of a construct matched. -/
  | unterminatedRule (rule : String)
  /-- The text ends inside an entered state. -/
  | unterminatedState (state : String)
  /-- The text ends inside a bracket of a balanced state. -/
  | unclosedBracket (bracket : Char) (state : String)
  /-- A closer does not fit the innermost opener. -/
  | wrongCloser (opener found : Char) (closedAt : Location)
  /-- A closer finds nothing open. -/
  | strayCloser (found : Char)
  /-- The bottom state cannot be left. -/
  | bottomPopped (state : String)
  /-- The rule table declares no such state. -/
  | undeclaredState (state : String)
  deriving DecidableEq, Repr

namespace Cause

def kind : Cause → ErrorKind
  | unexpected .. => .noRuleMatched
  | unterminatedRule _ | unterminatedState _ | unclosedBracket .. => .unterminatedConstruct
  | wrongCloser .. | strayCloser _ => .balancerMismatch
  | bottomPopped _ => .stateUnderflow
  | undeclaredState _ => .unknownState

def quote (s : String) : String := "`" ++ s ++ "`"

def message : Cause → String
  | unexpected c s => "unexpected " ++ Quoted.ofChar c ++ " in state " ++ s
  | unterminatedRule r => "unterminated " ++ r
  | unterminatedState s => "unterminated " ++ s ++ " at end of input"
  | unclosedBracket b s => "unclosed " ++ quote b.toString ++ " in " ++ s ++ " at end of input"
  | wrongCloser o c loc => "unclosed " ++ quote o.toString ++ ": found " ++ quote c.toString ++ " at " ++ loc.display
  | strayCloser c => quote c.toString ++ " has no matching opener"
  | bottomPopped s => "cannot pop " ++ quote s ++ ": it is the bottom state"
  | undeclaredState s => "the rule table has no state " ++ quote s

end Cause

structure Diagnostic where
  kind : ErrorKind
  loc : Location
  message : String
  deriving DecidableEq, Repr

namespace Diagnostic

def display (d : Diagnostic) : String :=
  "Syntax error at " ++ d.loc.display ++ ": " ++ d.kind.describe ++ ": " ++ d.message

/-- The line of the error, and below it a caret in the column of the error. -/
def caret (d : Diagnostic) (source : Text) : Text :=
  Text.lineAt source d.loc.offset ++ '\n' :: List.replicate (d.loc.column - 1) ' ' ++ ['^']

end Diagnostic

structure ScanError where
  cause : Cause
  loc : Location
  deriving DecidableEq, Repr

def ScanError.diagnostic (e : ScanError) : Diagnostic := ⟨e.cause.kind, e.loc, e.cause.message⟩

end ModalLexer
