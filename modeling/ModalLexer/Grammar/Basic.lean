import ModalLexer.Grammar.Ecmascript
import ModalLexer.Grammar.C
import ModalLexer.Grammar.Bnf
import ModalLexer.Session
/-!
# Grammars

The grammars that come with the library, and how one is picked: by its name, by one of the file extensions it handles,
or by a path, whose extension decides.  Case does not count, and neither do points before an extension.
-/
namespace ModalLexer

inductive Grammar
  | ecmascript | c | bnf
  deriving DecidableEq, Repr

inductive GrammarError
  | unknown (name : String)
  | table (g : Grammar) (e : TableError)
  | syntaxError (e : ScanError)
  deriving DecidableEq, Repr

namespace Grammar

def all : List Grammar := [.ecmascript, .c, .bnf]

def name : Grammar → String
  | ecmascript => "ecmascript"
  | c => "c"
  | bnf => "bnf"

def extensions : Grammar → List String
  | ecmascript => Ecmascript.extensions
  | c => C.extensions
  | bnf => Bnf.extensions

def builder : Grammar → Builder
  | ecmascript => Ecmascript.builder
  | c => C.builder
  | bnf => Bnf.builder

def ecmascriptTable : Except TableError Table := Ecmascript.builder.build

def cTable : Except TableError Table := C.builder.build

def bnfTable : Except TableError Table := Bnf.builder.build

def table : Grammar → Except TableError Table
  | ecmascript => ecmascriptTable
  | c => cTable
  | bnf => bnfTable

def options : Grammar → Options
  | ecmascript => {}
  | c => {}
  | bnf => {}

/-! ## Picking a grammar -/

def lowercase (s : String) : String := String.ofList (s.toList.map Char.toLower)

def ofExtension? (ext : String) : Option Grammar :=
  let e := String.ofList ((ext.toList.dropWhile (· == '.')).map Char.toLower)
  all.find? fun g => g.extensions.contains e

/-- The grammar of that name, or else the grammar that handles that extension. -/
def ofName? (s : String) : Option Grammar :=
  let l := lowercase s
  (all.find? fun g => g.name == l).or (ofExtension? l)

def ofName (s : String) : Except GrammarError Grammar :=
  match ofName? s with
  | some g => .ok g
  | none => .error (.unknown s)

/-- What stands between the slashes of a path. -/
def pieces : Text → List Text
  | [] => [[]]
  | ch :: t => match pieces t with
    | [] => [[ch]]
    | p :: ps => if ch = '/' then [] :: p :: ps else (ch :: p) :: ps

/-- The last name on a path.  Empty names, and those that mean the same directory, do not count. -/
def fileName? (path : Text) : Option Text := ((pieces path).filter fun p => !p.isEmpty && p != ['.']).getLast?

/-- What follows the last point of a file name.  A name has no extension where nothing precedes that point, and neither
has the parent directory. -/
def extension? (file : Text) : Option Text :=
  let ext := (file.reverse.takeWhile (· != '.')).reverse
  let before := file.length - ext.length
  if before ≤ 1 ∨ file = ['.', '.'] then none else some ext

def ofPath? (path : String) : Option Grammar := do
  let file ← fileName? path.toList
  let ext ← extension? file
  ofExtension? (String.ofList ext)

/-! ## Scanning with a grammar -/

/-- A session over a text with the table and the options of a grammar. -/
def session {σ : Type} (g : Grammar) (source : Text) (name : String) (memory : σ) :
    Except GrammarError (Session σ) :=
  match g.table with
  | .ok t => .ok (.new t source name g.options memory)
  | .error e => .error (.table g e)

/-- All visible tokens of a text. -/
def tokenize (g : Grammar) (source : Text) (name : String) : Except GrammarError (List Token) :=
  match g.session source name () with
  | .error e => .error e
  | .ok s => match s.tokens with
    | .ok ts => .ok ts
    | .error e => .error (.syntaxError e)

end Grammar

def GrammarError.message : GrammarError → String
  | unknown n => "unknown grammar `" ++ n ++ "`"
  | table g e => "invalid " ++ g.name ++ " rule table: " ++ e.message
  | syntaxError e => e.diagnostic.display

end ModalLexer
