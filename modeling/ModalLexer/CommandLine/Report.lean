import ModalLexer.CommandLine.Arguments
import ModalLexer.Grammar.Slash
import ModalLexer.Listing
import ModalLexer.Json
/-!
# What a command reports

A command is given the file it names, if it names one, and answers with lines of output, lines of diagnostics and an exit
code.  A file that cannot be read is reported before a grammar that cannot be told, and that before any error of the
scan.  Only a scan that succeeds prints tokens.
-/
namespace ModalLexer

/-- What reading a file comes to. -/
inductive FileContent
  | missing
  | unreadable (reason : String)
  | text (t : Text)
  deriving DecidableEq, Repr

/-- The content of a file that holds these bytes. -/
def FileContent.ofBytes (bytes : ByteArray) : FileContent :=
  match String.fromUTF8? bytes with
  | some s => .text s.toList
  | none => .unreadable "stream did not contain valid UTF-8"

structure Report where
  code : Nat
  output : List String
  diagnostics : List String
  deriving DecidableEq, Repr

namespace Report

def failure (diagnostics : List String) : Report := ⟨1, [], diagnostics⟩

/-- The report of a command line that is refused. -/
def usage : Report := ⟨2, [], ["usage: tokens|check FILE [--grammar NAME], rules GRAMMAR"]⟩

end Report

namespace Command

/-- The file that a command reads. -/
def path? : Command → Option String
  | tokens path _ _ _ => some path
  | check path _ => some path
  | rules _ => none

/-- Reads a file as text and picks its grammar, unless one is given. -/
def source (path : String) (grammar : Option Grammar) : FileContent → Except Report (Grammar × Text)
  | .missing => .error (.failure ["error: file not found: " ++ path])
  | .unreadable reason => .error (.failure ["error: reading " ++ path ++ ": " ++ reason])
  | .text t => match grammar.or (Grammar.ofPath? path) with
    | some g => .ok (g, t)
    | none => .error (.failure ["error: cannot tell the grammar of " ++ path ++ "; pass --grammar"])

/-- A failed scan, with the offending line if there is one. -/
def scanFailure (source : Text) (e : GrammarError) : Report :=
  let caret := match e with
    | .syntaxError e => [String.ofList (e.diagnostic.caret source)]
    | _ => []
  .failure (("error: " ++ e.message) :: caret)

/-- Scans a file and reports what `k` makes of its tokens. -/
def scanned (path : String) (grammar : Option Grammar) (all : Bool) (file : FileContent)
    (k : Grammar → List Token → Report) : Report :=
  match source path grammar file with
  | .error r => r
  | .ok (g, t) => match g.scan t path all with
    | .ok ts => k g ts
    | .error e => scanFailure t e

def tokenLine (t : Token) : String :=
  toString t.loc.line ++ ":" ++ toString t.loc.column ++ "\t" ++ t.state ++ "\t" ++ t.kind.name ++ "\t" ++
    Quoted.ofText t.lexeme

def ruleLines (t : Table) : List String :=
  t.describeRules ++ (if t.keywords.isEmpty then [] else ["keywords: " ++ " ".intercalate t.sortedKeywords])

/-- What a command reports, given the file that it reads. -/
def report (c : Command) (file : FileContent) : Report :=
  match c with
  | tokens path grammar all json =>
    scanned path grammar all file fun _ ts => ⟨0, if json then Json.ofTokens ts else ts.map tokenLine, []⟩
  | check path grammar =>
    scanned path grammar false file fun g ts =>
      ⟨0, [], ["OK: " ++ path ++ " (" ++ toString ts.length ++ " tokens, " ++ g.name ++ ")"]⟩
  | rules g => match g.table with
    | .ok t => ⟨0, ruleLines t, []⟩
    | .error e => .failure ["error: " ++ (GrammarError.table g e).message]

end Command
end ModalLexer
