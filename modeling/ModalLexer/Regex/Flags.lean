import ModalLexer.Regex.Basic
/-!
# Flags

Flags change how the rest of a group is read.  The ones that decide what an expression denotes are turned into it on
the spot: ignoring case widens a class, the flag for lines chooses among the tests of a position, and so on.  In extended
mode blanks and comments between the elements of a pattern mean nothing; `skip` is how the reader passes over them.

Without Unicode an element could match a part of a character, and a pattern that could do so is refused.  What is left
concerns ASCII only.
-/
namespace ModalLexer
namespace Regex

structure Flags where
  ignoreCase : Bool := false
  multiLine : Bool := false
  dotAll : Bool := false
  swapGreed : Bool := false
  unicode : Bool := true
  crlf : Bool := false
  extended : Bool := false
  deriving DecidableEq, Repr

namespace Flags

def set? (f : Flags) (c : Char) (on : Bool) : Option Flags :=
  match c with
  | 'i' => some { f with ignoreCase := on }
  | 'm' => some { f with multiLine := on }
  | 's' => some { f with dotAll := on }
  | 'U' => some { f with swapGreed := on }
  | 'u' => some { f with unicode := on }
  | 'R' => some { f with crlf := on }
  | 'x' => some { f with extended := on }
  | _ => none

/-- Passes over blanks and over comments, which run to the end of the line. -/
def skipBlank : (inComment : Bool) → Text → Text
  | _, [] => []
  | true, c :: t => skipBlank (c != '\n') t
  | false, c :: t =>
    if Unicode.isWhiteSpace c then skipBlank false t
    else if c = '#' then skipBlank true t
    else c :: t

def skip (f : Flags) (t : Text) : Text := if f.extended then skipBlank false t else t

/-- The significant characters before the next `stop`, and what follows it. -/
def collect (f : Flags) (stop : Char) : (inComment : Bool) → Text → Option (Text × Text)
  | _, [] => none
  | true, c :: t => collect f stop (c != '\n') t
  | false, c :: t =>
    if f.extended && Unicode.isWhiteSpace c then collect f stop false t
    else if f.extended && c == '#' then collect f stop true t
    else if c = stop then some ([], t)
    else (collect f stop false t).map fun r => (c :: r.1, r.2)

def readSigns (f : Flags) (on : Bool) (seen : List Char) : Text → Option (Flags × Char × Text)
  | [] => none
  | c :: t =>
    if c = ':' || c = ')' then
      if seen.head? = some '-' || (c = ')' && seen.isEmpty) then none else some (f, c, t)
    else if seen.contains c then none
    else if c = '-' then readSigns f false (c :: seen) t
    else match f.set? c on with
      | none => none
      | some f => readSigns f on (c :: seen) t

/-- Reads the letters between `(?` and `:` or `)`, and says which of the two ended them.  No letter may come twice, a
minus turns off those after it, and `(?)` is no group. -/
def read (f : Flags) (t : Text) : Option (Flags × Char × Text) := readSigns f true [] t

/-- What a class admits under the flags. -/
def fold (f : Flags) (s : CharClass) : CharClass :=
  if !f.ignoreCase then s
  else if f.unicode then .anyCase s
  else .inter (.anyCase s) (.property .ascii)

def compl? (f : Flags) (s : CharClass) : Option CharClass := if f.unicode then some (.compl s) else none

def char (f : Flags) (c : Char) : CharClass :=
  if f.unicode || c.toNat < 0x80 then f.fold (.single c) else .single c

def dot? (f : Flags) : Option CharClass :=
  if !f.unicode then none
  else if f.dotAll then some (.property .any)
  else if f.crlf then some (.compl (.union (.single '\r') (.single '\n')))
  else some (.compl (.single '\n'))

def caret (f : Flags) : Look := if f.multiLine then .lineStart f.crlf else .textStart

def dollar (f : Flags) : Look := if f.multiLine then .lineEnd f.crlf else .textEnd

def edge (f : Flags) (e : WordEdge) : Look := .word e (!f.unicode)

end Flags
end Regex
end ModalLexer
