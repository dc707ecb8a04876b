/-!
# Texts and their byte lengths

The text being scanned is a list of characters.  Offsets and lengths that reach the outside count bytes of its UTF-8
form, so this module ties the two counts together: `bytes` measures a text, `charsOfBytes?` counts the characters that
make up exactly so many bytes and refuses a count that ends inside a character or beyond the text, and `charsWithin`
rounds such a count down.
-/
namespace ModalLexer

abbrev Text := List Char

namespace Text

/-- The length of the UTF-8 form. -/
def bytes : Text → Nat
  | [] => 0
  | c :: cs => c.utf8Size + bytes cs

/-- How many leading characters take exactly `n` bytes. -/
def charsOfBytes? (n : Nat) : Text → Option Nat
  | [] => if n = 0 then some 0 else none
  | c :: cs =>
    if n = 0 then some 0
    else if c.utf8Size ≤ n then (charsOfBytes? (n - c.utf8Size) cs).map (· + 1)
    else none

/-- How many leading characters lie wholly within the first `n` bytes. -/
def charsWithin (n : Nat) : Text → Nat
  | [] => 0
  | c :: cs => if c.utf8Size ≤ n then charsWithin (n - c.utf8Size) cs + 1 else 0

/-- What follows the first `n` bytes, if a character starts there or the text ends there. -/
def dropBytes? (n : Nat) (t : Text) : Option Text := (charsOfBytes? n t).map (t.drop ·)

/-- The first `n` bytes, if a character ends there or the text begins there. -/
def takeBytes? (n : Nat) (t : Text) : Option Text := (charsOfBytes? n t).map (t.take ·)

/-- The text without the characters at its end that satisfy `p`. -/
def dropTrailing (p : Char → Bool) (t : Text) : Text := (t.reverse.dropWhile p).reverse

def inLine (c : Char) : Bool := c != '\n'

/-- The line that holds the byte at `offset`, without its line feed and the carriage returns before it.  An offset
beyond the end means the last line, and one inside a character means that character. -/
def lineAt (t : Text) (offset : Nat) : Text :=
  let n := charsWithin offset t
  let before := (t.take n).reverse.takeWhile inLine
  let after := (t.drop n).takeWhile inLine
  dropTrailing (· == '\r') (before.reverse ++ after)

@[simp] theorem bytes_nil : bytes [] = 0 := rfl

@[simp] theorem bytes_cons (c : Char) (cs : Text) : bytes (c :: cs) = c.utf8Size + bytes cs := rfl

@[simp] theorem bytes_append : ∀ s t : Text, bytes (s ++ t) = bytes s + bytes t
  | [], t => by simp
  | c :: cs, t => by simp [bytes_append cs t, Nat.add_assoc]

end Text
end ModalLexer
