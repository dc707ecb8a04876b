import ModalLexer.Text
/-!
# Named fragments of patterns

A pattern may refer to a named fragment as `{name}`.  Expanding it puts the fragment, expanded in turn, into a group of
its own in place of the reference.  Braces around anything but the name of a fragment stand for themselves, and so does
what follows a backslash.  Fragments may nest up to a depth; a reference below that is taken for a cycle, which makes
expansion end on every list of fragments.

A pattern may also begin with the name of a state between `<` and `>` (`splitState?`).
-/
namespace ModalLexer

/-- Names with their patterns, the latest definition first. -/
abbrev Fragments := List (Text × Text)

namespace Fragments

/-- How deep references may nest. -/
def maxDepth : Nat := 16

inductive Piece
  | char (c : Char)
  | reference (name body : Text)
  deriving DecidableEq, Repr

/-- The name between an opening brace and the next closing one, from behind the opening brace, with its fragment. -/
def reference? (fs : Fragments) (t : Text) : Option (Text × Text) :=
  let name := t.takeWhile (· != '\x7d')
  if name.length < t.length then (fs.lookup name).map ((name, ·)) else none

/-- Cuts a pattern into characters and references, after passing over `skip` characters. -/
def pieces (fs : Fragments) : (skip : Nat) → Text → List Piece
  | _, [] => []
  | n + 1, _ :: t => pieces fs n t
  | 0, '\\' :: c :: t => .char '\\' :: .char c :: pieces fs 0 t
  | 0, c :: t =>
    match if c = '\x7b' then reference? fs t else none with
    | some (name, body) => .reference name body :: pieces fs (name.length + 1) t
    | none => .char c :: pieces fs 0 t

/-- The text of pieces, given how a reference is expanded. -/
def join (expand : Text → Text → Except Text Text) : List Piece → Except Text Text
  | [] => .ok []
  | .char c :: ps => (join expand ps).map (c :: ·)
  | .reference name body :: ps => do
    let inner ← expand name body
    let rest ← join expand ps
    .ok ("(?:".toList ++ inner ++ ')' :: rest)

/-- Expands a pattern in which references may still nest `depth` deep, or names the reference that is too deep. -/
def expandTo (fs : Fragments) : (depth : Nat) → Text → Except Text Text
  | 0, t => join (fun name _ => .error name) (pieces fs 0 t)
  | d + 1, t => join (fun _ body => expandTo fs d body) (pieces fs 0 t)

def expand (fs : Fragments) (t : Text) : Except Text Text := expandTo fs maxDepth t

def isStateChar (c : Char) : Bool := c.isAlphanum || c == '_'

/-- The state at the beginning of a pattern and the pattern behind it. -/
def splitState? : Text → Option (Text × Text)
  | '<' :: t =>
    let name := t.takeWhile (· != '>')
    match t.dropWhile (· != '>') with
    | _ :: rest => if !name.isEmpty && name.all isStateChar then some (name, rest) else none
    | [] => none
  | _ => none

end Fragments
end ModalLexer
