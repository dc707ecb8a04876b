import ModalLexer.Regex.Bracket
import ModalLexer.Regex.Size
import ModalLexer.Unicode.Visible
/-!
# Reading patterns

A pattern is a sequence of branches, a branch a sequence of items, and an item a character, a class, a test of a
position or a group, each with repetitions behind it.  `Regex.ofText?` reads a pattern or refuses it.  Groups that
capture and groups that do not denote the same here; a name for one must be well formed and its own.

Two limits keep patterns small: they may nest `maxDepth` deep, and the automaton of a pattern has to fit into the memory
set aside for it (`Form.fits`).
-/
namespace ModalLexer
namespace Regex

def maxDepth : Nat := 250

/-- An item of a branch.  A change of flags is an item too, but it cannot be repeated. -/
structure Item where
  form : Form
  depth : Nat
  repeatable : Bool
  deriving DecidableEq, Repr

namespace Item

def leaf (a : Form) : Item := ⟨a, 0, true⟩

/-- A group, which captures if it has a mark. -/
def group (mark : Option Nat) (i : Item) : Item :=
  ⟨match mark with
    | some m => .capture m i.form
    | none => i.form, i.depth + 1, true⟩

def deepest (is : List Item) : Nat := (is.map (·.depth)).foldl max 0

/-- A branch from its items, last first. -/
def branch (items : List Item) : Item :=
  match items.reverse with
  | [] => leaf .empty
  | [i] => i
  | is => ⟨.sequence (is.map (·.form)), deepest is + 1, true⟩

/-- The alternation of branches, last first. -/
def choice (branches : List Item) : Item :=
  match branches.reverse with
  | [] => leaf .empty
  | [i] => i
  | is => ⟨.choice (is.map (·.form)), deepest is + 1, true⟩

end Item

namespace Reader

def decimalDigits (t : Text) : Text := t.takeWhile Char.isDigit

def dropBlanks (t : Text) : Text := t.dropWhile Unicode.isWhiteSpace

/-- A decimal number below 2^32 with blanks around it, and what follows. -/
def readDecimal (t : Text) : Option (Nat × Text) :=
  let t := dropBlanks t
  let ds := decimalDigits t
  let n := ds.foldl (fun v d => v * 10 + (d.toNat - '0'.toNat)) 0
  if ds.isEmpty || UInt32.size ≤ n then none else some (n, dropBlanks (t.drop ds.length))

/-- The bounds between the braces of a counted repetition: `n`, `n,` or `n,m`. -/
def bounds? (body : Text) : Option (Nat × Option Nat) := do
  let (least, t) ← readDecimal body
  match t with
  | [] => some (least, some least)
  | [','] => some (least, none)
  | ',' :: t =>
    let (most, t) ← readDecimal t
    if t.isEmpty && least ≤ most then some (least, some most) else none
  | _ => none

/-- Repeats the last item of a branch.  A question mark behind the operator prefers fewer rounds. -/
def repeatLast (f : Flags) (least : Nat) (most : Option Nat) (items : List Item) (t : Text) :
    Option (List Item × Text) :=
  match items with
  | ⟨a, d, true⟩ :: is =>
    let (lazy, t) := match t with
      | '?' :: r => (true, r)
      | r => (false, r)
    some (⟨.repeated least most (lazy == f.swapGreed) a, d + 1, true⟩ :: is, t)
  | _ => none

def isNameStart (c : Char) : Bool := c == '_' || Unicode.isNameLetter c

def isNamePart (c : Char) : Bool :=
  c == '_' || c == '.' || c == '[' || c == ']' || Unicode.isNameAlphanumeric c

/-- The name of a group up to `>`.  It must not be among the names already given. -/
def readName (names : List Text) (t : Text) : Option (Text × Text) :=
  let name := t.takeWhile (· != '>')
  match t.dropWhile (· != '>') with
  | '>' :: r =>
    if name.head?.any isNameStart && name.tail.all isNamePart && !names.contains name then some (name, r) else none
  | _ => none

inductive Opening
  /-- A group, with the flags that hold inside, and whether it captures. -/
  | group (f : Flags) (captures : Bool)
  /-- A change of flags for the rest of the group around it. -/
  | flags (f : Flags)

/-- Reads what follows an opening parenthesis.  Tests of what lies ahead or behind are refused. -/
def readOpening (f : Flags) (names : List Text) (t : Text) : Option (Opening × List Text × Text) :=
  match f.skip t with
  | '?' :: '=' :: _ => none
  | '?' :: '!' :: _ => none
  | '?' :: '<' :: '=' :: _ => none
  | '?' :: '<' :: '!' :: _ => none
  | '?' :: 'P' :: '<' :: r => (readName names r).map fun (name, r) => (.group f true, name :: names, r)
  | '?' :: '<' :: r => (readName names r).map fun (name, r) => (.group f true, name :: names, r)
  | '?' :: r => (f.read r).map fun (g, stop, r) => (if stop = ')' then .flags g else .group g false, names, r)
  | r => some (.group f true, names, r)

/-- A character, an escape, or one of `.`, `^` and `$`. -/
def readPrimitive (f : Flags) : Text → Option (Item × Text)
  | [] => none
  | '.' :: t => f.dot?.map fun s => (.leaf (.ofClass s), t)
  | '^' :: t => some (.leaf (.look f.caret), t)
  | '$' :: t => some (.leaf (.look f.dollar), t)
  | '\\' :: t => (Escape.read f t).map fun (e, t) => (.leaf (match e with
    | .literal c => .ofClass (f.char c)
    | .look l => .look l
    | .set s => .ofClass s), t)
  | c :: t => some (.leaf (.ofClass (f.char c)), t)

/-- Reads branches up to the closing parenthesis, which stays, or to the end.  `branches` and `items` are the branches and
the items of the current branch read so far, last first. -/
def readGroup : (fuel : Nat) → Flags → List Text → (branches items : List Item) → Text →
    Option (Item × List Text × Text)
  | 0, _, _, _, _, _ => none
  | n + 1, f, names, branches, items, t =>
    let repeated := fun least most r => match repeatLast f least most items r with
      | none => none
      | some (items, r) => readGroup n f names branches items r
    match f.skip t with
    | [] => some (.choice (.branch items :: branches), names, [])
    | ')' :: r => some (.choice (.branch items :: branches), names, ')' :: r)
    | '|' :: r => readGroup n f names (.branch items :: branches) [] r
    | '?' :: r => repeated 0 (some 1) r
    | '*' :: r => repeated 0 none r
    | '+' :: r => repeated 1 none r
    | '\x7b' :: r => match f.collect '\x7d' false r with
      | none => none
      | some (body, r) => match bounds? body with
        | none => none
        | some (least, most) => repeated least most (f.skip r)
    | '(' :: r => match readOpening f names r with
      | none => none
      | some (.flags g, names, r) => readGroup n g names branches (⟨.empty, 0, false⟩ :: items) r
      | some (.group g captures, names, r) => match readGroup n g names [] [] r with
        | some (i, names, ')' :: r') =>
          readGroup n f names branches (i.group (if captures then some r.length else none) :: items) r'
        | _ => none
    | '[' :: r => match Bracket.read f r with
      | none => none
      | some (c, r) => readGroup n f names branches (⟨.ofClass c.set, c.depth, true⟩ :: items) r
    | t => match readPrimitive f t with
      | none => none
      | some (i, r) => readGroup n f names branches (i :: items) r

end Reader

/-- The expression that a pattern denotes. -/
def ofText? (t : Text) : Option Regex :=
  match Reader.readGroup (t.length + 1) {} [] [] [] t with
  | some (i, _, []) => if i.depth ≤ maxDepth && i.form.fits then some i.form.regex else none
  | _ => none

end Regex
end ModalLexer
