import ModalLexer.Text
/-!
# Locations

A location says where in a named text a character stands: its byte offset, and its line and column counted from one.
Columns count characters, so a location is found by walking over the text before it (`advance`), and walking over two
pieces in turn is walking over both together (`advance_append`).
-/
namespace ModalLexer

structure Location where
  offset : Nat
  line : Nat
  column : Nat
  source : String
  deriving DecidableEq, Repr

namespace Location

/-- The location of the first character of a text. -/
def start (source : String) : Location := ⟨0, 1, 1, source⟩

def advanceChar (l : Location) (c : Char) : Location :=
  if c = '\n' then { l with offset := l.offset + c.utf8Size, line := l.line + 1, column := 1 }
  else { l with offset := l.offset + c.utf8Size, column := l.column + 1 }

/-- The location just behind `t`, which begins at `l`. -/
def advance (l : Location) (t : Text) : Location := t.foldl advanceChar l

/-- `source:line:column`, or `line:column` where the text has no name. -/
def display (l : Location) : String :=
  (if l.source.isEmpty then "" else l.source ++ ":") ++ toString l.line ++ ":" ++ toString l.column

instance : ToString Location := ⟨display⟩

@[simp] theorem advance_nil (l : Location) : l.advance [] = l := rfl

@[simp] theorem advance_cons (l : Location) (c : Char) (cs : Text) :
    l.advance (c :: cs) = (l.advanceChar c).advance cs := rfl

theorem advance_append (l : Location) (s t : Text) : l.advance (s ++ t) = (l.advance s).advance t :=
  List.foldl_append

@[simp] theorem advanceChar_offset (l : Location) (c : Char) : (l.advanceChar c).offset = l.offset + c.utf8Size := by
  unfold advanceChar; split <;> rfl

@[simp] theorem advanceChar_source (l : Location) (c : Char) : (l.advanceChar c).source = l.source := by
  unfold advanceChar; split <;> rfl

theorem advance_offset : ∀ (t : Text) (l : Location), (l.advance t).offset = l.offset + t.bytes
  | [], l => rfl
  | c :: cs, l => by rw [advance_cons, advance_offset cs, advanceChar_offset, Text.bytes_cons, Nat.add_assoc]

/-- **The offset behind a text that begins at the start** is the length of the text. -/
theorem start_advance_offset (source : String) (t : Text) : ((start source).advance t).offset = t.bytes := by
  rw [advance_offset]
  exact Nat.zero_add _

theorem advance_source : ∀ (t : Text) (l : Location), (l.advance t).source = l.source
  | [], _ => rfl
  | c :: cs, l => by rw [advance_cons, advance_source cs, advanceChar_source]

end Location
end ModalLexer
