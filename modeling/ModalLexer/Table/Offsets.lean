import ModalLexer.Table.Basic
/-!
# Matches at an offset

Whoever holds a whole text points to a place in it by a byte offset, and measures what is matched there in bytes too.
Behind an offset inside a character, or beyond the end, there is nothing to match.
-/
namespace ModalLexer

/-- How many bytes of a text the pattern takes from an offset on, if any. -/
def Pattern.matchAt? (p : Pattern) (text : Text) (offset : Nat) : Option Nat :=
  (text.dropBytes? offset).bind fun rest => (p.matchLength? rest).map fun n => Text.bytes (rest.take n)

/-- The place in its table of a rule that wins, and the number of bytes it takes. -/
structure Found where
  index : Nat
  bytes : Nat
  deriving DecidableEq, Repr

/-- What wins in a state at an offset of a text. -/
def Table.matchAt? (t : Table) (p : Policy) (q : State) (text : Text) (offset : Nat) : Option Found :=
  (text.dropBytes? offset).bind fun rest =>
    (t.choose? p q rest).map fun m => ⟨m.index, Text.bytes (rest.take m.length)⟩

end ModalLexer
