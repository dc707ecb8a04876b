import ModalLexer.Location
/-!
# Bracket balancing

Inside a balanced state every open `(`, `[` and `{` is recorded with the place where it was opened, innermost first.
That tells the `}` that closes a nested block from the `}` that ends the state: the latter finds nothing open.  A closer
must fit the innermost opener (`Brackets.close`); one that does not is reported together with that opener and leaves
the record as it was.
-/
namespace ModalLexer

structure OpenBracket where
  bracket : Char
  loc : Location
  deriving DecidableEq, Repr

/-- The open brackets, innermost first. -/
structure Brackets where
  opened : List OpenBracket
  deriving DecidableEq, Repr

/-- A closer and the innermost opener, if any, that it does not fit. -/
structure Mismatch where
  found : Char
  opener : Option OpenBracket
  deriving DecidableEq, Repr

namespace Brackets

def empty : Brackets := ⟨[]⟩

def isOpener (c : Char) : Bool := c == '\x7b' || c == '[' || c == '('

def isCloser (c : Char) : Bool := c == '\x7d' || c == ']' || c == ')'

/-- The closer that fits an opener. -/
def closerFor? (c : Char) : Option Char :=
  if c = '\x7b' then some '\x7d' else if c = '[' then some ']' else if c = '(' then some ')' else none

def push (b : Brackets) (c : Char) (loc : Location) : Brackets := ⟨⟨c, loc⟩ :: b.opened⟩

def close (b : Brackets) (c : Char) : Except Mismatch Brackets :=
  match b.opened with
  | [] => .error ⟨c, none⟩
  | o :: os => if closerFor? o.bracket = some c then .ok ⟨os⟩ else .error ⟨c, some o⟩

def depth (b : Brackets) : Nat := b.opened.length

def innermost? (b : Brackets) : Option OpenBracket := b.opened.head?

end Brackets
end ModalLexer
