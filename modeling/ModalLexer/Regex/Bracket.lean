import ModalLexer.Regex.Escape
/-!
# Bracketed classes

Between brackets stand characters, ranges, escapes, named ASCII classes and nested brackets; side by side they are
united.  `&&`, `--` and `~~` intersect, subtract and take the symmetric difference of what stands left and right of
them, all with the same precedence and from left to right.  A node records how deeply it is nested, since patterns may
not nest without limit.

The reader calls itself for nested brackets and for the next item, so it takes the number of calls it may still make;
the length of the text is always enough, as every call has read a character.
-/
namespace ModalLexer
namespace Regex

inductive SetOp
  | inter | diff | symmDiff
  deriving DecidableEq, Repr

def SetOp.apply : SetOp → CharClass → CharClass → CharClass
  | inter => .inter
  | diff => .diff
  | symmDiff => .symmDiff

/-- A class and the depth of its nesting. -/
structure ClassNode where
  set : CharClass
  depth : Nat
  deriving DecidableEq, Repr

namespace ClassNode

/-- The union of items, given last first. -/
def union (items : List ClassNode) : ClassNode :=
  match items.reverse with
  | [] => ⟨.none, 0⟩
  | [i] => i
  | is => ⟨.unions (is.map (·.set)), (is.map (·.depth)).foldl max 0 + 1⟩

/-- Completes the operation that was waiting for its right side. -/
def settle (f : Flags) (pending : Option (SetOp × ClassNode)) (right : ClassNode) : ClassNode :=
  match pending with
  | none => right
  | some (op, left) => ⟨op.apply (f.fold left.set) (f.fold right.set), max left.depth right.depth + 1⟩

/-- Closes a bracket. -/
def finish (f : Flags) (negated : Bool) (n : ClassNode) : Option ClassNode := do
  let s := f.fold n.set
  let s ← if negated then f.compl? s else some s
  some ⟨s, n.depth + 1⟩

end ClassNode

namespace Bracket

def leaf (s : CharClass) : ClassNode := ⟨s, 0⟩

/-- A literal in a class.  Without Unicode it has to be ASCII. -/
def literal? (f : Flags) (c : Char) : Option ClassNode :=
  if f.unicode || c.toNat < 0x80 then some (leaf (.single c)) else none

def readElement (f : Flags) : Text → Option (Escape × Text)
  | [] => none
  | '\\' :: t => Escape.read f t
  | c :: t => some (.literal c, t)

def ofEscape? (f : Flags) : Escape → Option ClassNode
  | .literal c => literal? f c
  | .set s => some (leaf s)
  | .look _ => none

/-- The character that decides whether a hyphen begins a range.  Extended mode looks past blanks and the opening of a
comment. -/
def peek (f : Flags) (t : Text) : Option Char :=
  if f.extended then
    match t.dropWhile Unicode.isWhiteSpace with
    | '#' :: r => (r.dropWhile Unicode.isWhiteSpace).head?.or t.head?
    | c :: _ => some c
    | [] => t.head?
  else t.head?

/-- A single element or a range. -/
def readItem (f : Flags) (t : Text) : Option (ClassNode × Text) := do
  let (e, t) ← readElement f t
  match f.skip t with
  | [] => none
  | '-' :: r =>
    if peek f r = some ']' || peek f r = some '-' then
      some (← ofEscape? f e, '-' :: r)
    else do
      let (e', r) ← readElement f (f.skip r)
      match e, e' with
      | .literal a, .literal b =>
        if a ≤ b && (f.unicode || b.toNat < 0x80) then some (leaf (.range a b), r) else none
      | _, _ => none
  | t => some (← ofEscape? f e, t)

/-- A named class, `[:alpha:]` or `[:^alpha:]`, from behind its first bracket.  What does not look like one is a nested
bracket instead. -/
def readNamed? (f : Flags) (t : Text) : Option (Option ClassNode × Text) :=
  match t with
  | ':' :: t =>
    let (negated, t) := match t with
      | '^' :: r => (true, r)
      | r => (false, r)
    let name := t.takeWhile (· != ':')
    match t.dropWhile (· != ':') with
    | ':' :: ']' :: r =>
      (CharClass.ascii? (String.ofList name)).map fun s =>
        ((if negated then f.compl? (f.fold s) else some (f.fold s)).map leaf, r)
    | _ => none
  | _ => none

/-- Hyphens right behind the opening of a bracket are literal. -/
def readHyphens (f : Flags) : (fuel : Nat) → List ClassNode → Text → List ClassNode × Text
  | n + 1, items, '-' :: t => readHyphens f n (leaf (.single '-') :: items) (f.skip t)
  | _, items, t => (items, t)

/-- What may follow the opening of a bracket: a negation, hyphens, or a closing bracket taken literally. -/
def readOpening (f : Flags) (t : Text) : Bool × List ClassNode × Text :=
  let (negated, t) := match f.skip t with
    | '^' :: r => (true, f.skip r)
    | r => (false, r)
  match readHyphens f t.length [] t with
  | ([], ']' :: r) => (negated, [leaf (.single ']')], f.skip r)
  | (items, r) => (negated, items, r)

/-- Reads items up to the closing bracket. -/
def readItems (f : Flags) : (fuel : Nat) → Option (SetOp × ClassNode) → List ClassNode → Text →
    Option (ClassNode × Text)
  | 0, _, _, _ => none
  | n + 1, pending, items, t =>
    let operator := fun op r => readItems f n (some (op, .settle f pending (.union items))) [] r
    match f.skip t with
    | [] => none
    | ']' :: r => some (.settle f pending (.union items), r)
    | '&' :: '&' :: r => operator .inter r
    | '-' :: '-' :: r => operator .diff r
    | '~' :: '~' :: r => operator .symmDiff r
    | '[' :: r => match readNamed? f r with
      | some (none, _) => none
      | some (some i, r) => readItems f n pending (i :: items) r
      | none =>
        let (negated, first, r) := readOpening f r
        match readItems f n none first r with
        | none => none
        | some (inner, r) => match inner.finish f negated with
          | none => none
          | some i => readItems f n pending (i :: items) r
    | t => match readItem f t with
      | none => none
      | some (i, r) => readItems f n pending (i :: items) r

/-- Reads a bracketed class from behind its opening bracket. -/
def read (f : Flags) (t : Text) : Option (ClassNode × Text) := do
  let (negated, first, r) := readOpening f t
  let (inner, r) ← readItems f (t.length + 1) none first r
  some (← inner.finish f negated, r)

end Bracket
end Regex
end ModalLexer
