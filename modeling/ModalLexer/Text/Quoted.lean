import ModalLexer.Text
import ModalLexer.Unicode.Visible
/-!
# Quoted forms

Messages and listings show a character or a lexeme in quotes.  Line breaks, the tab, the null character and the
backslash have short escapes; the quote that encloses the form is escaped and the other kind of quote is not.  A
character that attaches itself to its neighbour, or that prints as nothing, is written by its code point, so that what
is shown can be told apart and copied.
-/
namespace ModalLexer
namespace Quoted

/-- The code point in braces, in lower case hexadecimal without leading zeros. -/
def codePoint (c : Char) : Text := ['\\', 'u', '\x7b'] ++ Nat.toDigits 16 c.toNat ++ ['\x7d']

/-- How `c` is written between two `quote`s. -/
def escape (quote c : Char) : Text :=
  if c = '\x00' then ['\\', '0']
  else if c = '\t' then ['\\', 't']
  else if c = '\r' then ['\\', 'r']
  else if c = '\n' then ['\\', 'n']
  else if c = '\\' || c = quote then ['\\', c]
  else if Unicode.isVisible c then [c]
  else codePoint c

def ofText (t : Text) : String := String.ofList ('"' :: t.flatMap (escape '"') ++ ['"'])

def ofChar (c : Char) : String := String.ofList ('\'' :: escape '\'' c ++ ['\''])

end Quoted
end ModalLexer
