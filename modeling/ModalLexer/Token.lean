import ModalLexer.Kind
import ModalLexer.Location
import ModalLexer.Text.Quoted
/-!
# Tokens

A token is a piece of the text (its lexeme) with a kind.  It remembers the rule that matched and how many bytes the
match took, the place of its first character, and the name of the state that was innermost when it matched.
-/
namespace ModalLexer

structure Token where
  kind : Kind
  rule : Nat
  lexeme : Text
  bytes : Nat
  loc : Location
  state : String
  deriving DecidableEq, Repr

namespace Token

/-- The offset of the byte behind the lexeme. -/
def endOffset (t : Token) : Nat := t.loc.offset + t.bytes

def display (t : Token) : String := t.loc.display ++ " " ++ t.kind.name ++ " " ++ Quoted.ofText t.lexeme

end Token
end ModalLexer
