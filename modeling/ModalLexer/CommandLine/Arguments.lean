import ModalLexer.Grammar.Basic
/-!
# Command lines

A command line names a command, `tokens`, `check` or `rules`, and gives it one argument and options.  Options may stand
before or behind the argument; `--` ends them.  The value of `--grammar` follows it or is joined to it by `=`, and the
value of `-g` may also be joined to it directly.  An option given twice, an unknown one, a grammar nobody knows and an
argument too many or too few are all refused, for the same answer: `Command.ofArguments?` is then `none`.
-/
namespace ModalLexer

inductive Command
  /-- Print the tokens of a file. -/
  | tokens (path : String) (grammar : Option Grammar) (all json : Bool)
  /-- Say whether a file can be scanned. -/
  | check (path : String) (grammar : Option Grammar)
  /-- List the rules of a grammar. -/
  | rules (grammar : Grammar)
  deriving DecidableEq, Repr

namespace Command

/-- Which options a command has. -/
structure Accepts where
  grammar : Bool
  flags : Bool

/-- What has been read of a command line so far. -/
structure Given where
  argument : Option String := none
  grammar : Option Grammar := none
  all : Bool := false
  json : Bool := false

def addArgument (g : Given) (s : String) : Option Given :=
  if g.argument.isSome then none else some { g with argument := some s }

def addGrammar (a : Accepts) (g : Given) (value : String) : Option Given :=
  if a.grammar && g.grammar.isNone then
    (Grammar.ofName? value).map fun v => { g with grammar := some v }
  else none

def addFlag (a : Accepts) (g : Given) (name : String) : Option Given :=
  if !a.flags then none
  else if name = "--all" ∧ !g.all then some { g with all := true }
  else if name = "--json" ∧ !g.json then some { g with json := true }
  else none

/-- What follows `pre` in `s`. -/
def after? (pre s : String) : Option String :=
  if pre.toList.isPrefixOf s.toList then some (String.ofList (s.toList.drop pre.toList.length)) else none

/-- The value joined to an option that names a grammar. -/
def joinedGrammar? (s : String) : Option String :=
  (after? "--grammar=" s).or ((after? "-g=" s).or (if s = "-g" then none else after? "-g" s))

/-- Whether a word is an option: it begins with a hyphen and is more than that. -/
def isOption (s : String) : Bool := s.startsWith "-" && s != "-"

def read (a : Accepts) (g : Given) : List String → Option Given
  | [] => some g
  | "--" :: ss => ss.foldlM addArgument g
  | "--grammar" :: v :: ss => if isOption v then none else (addGrammar a g v).bind (read a · ss)
  | "-g" :: v :: ss => if isOption v then none else (addGrammar a g v).bind (read a · ss)
  | s :: ss =>
    let more := if !isOption s then addArgument g s
      else match joinedGrammar? s with
        | some v => addGrammar a g v
        | none => addFlag a g s
    more.bind (read a · ss)

def ofArguments? : List String → Option Command
  | "tokens" :: ss => do
    let g ← read ⟨true, true⟩ {} ss
    some (.tokens (← g.argument) g.grammar g.all g.json)
  | "check" :: ss => do
    let g ← read ⟨true, false⟩ {} ss
    some (.check (← g.argument) g.grammar)
  | "rules" :: ss => do
    let g ← read ⟨false, false⟩ {} ss
    some (.rules (← Grammar.ofName? (← g.argument)))
  | _ => none

end Command
end ModalLexer
