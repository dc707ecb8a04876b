import ModalLexer.Regex.Flags
/-!
# Escapes

A backslash introduces a literal character, a test of a position or a class.  ASCII punctuation escapes itself; letters
and digits are escapes only where listed, so that an unknown one is refused rather than taken for itself.
-/
namespace ModalLexer
namespace Regex

inductive Escape
  | literal (c : Char)
  | look (l : Look)
  | set (s : CharClass)
  deriving DecidableEq, Repr

def hexDigit? (c : Char) : Option Nat :=
  if '0' ≤ c && c ≤ '9' then some (c.toNat - '0'.toNat)
  else if 'a' ≤ c && c ≤ 'f' then some (c.toNat - 'a'.toNat + 10)
  else if 'A' ≤ c && c ≤ 'F' then some (c.toNat - 'A'.toNat + 10)
  else none

/-- The character of a code point. -/
def charOf? (n : Nat) : Option Char := if n.isValidChar then some (Char.ofNat n) else none

namespace Escape

/-- Exactly `n` hexadecimal digits, which extended mode allows to stand apart. -/
def hexDigits (f : Flags) : (n : Nat) → (value : Nat) → Text → Option (Nat × Text)
  | 0, v, t => some (v, t)
  | n + 1, v, t => match t with
    | [] => none
    | c :: t => match hexDigit? c with
      | none => none
      | some d => hexDigits f n (v * 16 + d) (f.skip t)

def hexNumber? : (value : Nat) → Text → Option Nat
  | v, [] => some v
  | v, c :: t => match hexDigit? c with
    | none => none
    | some d => hexNumber? (v * 16 + d) t

/-- A code point, either in braces or of a fixed number of digits. -/
def readHex (f : Flags) (digits : Nat) (t : Text) : Option (Escape × Text) :=
  match f.skip t with
  | '\x7b' :: t => do
    let (body, t) ← f.collect '\x7d' false t
    if body.isEmpty then none
    let c ← charOf? (← hexNumber? 0 body)
    some (literal c, f.skip t)
  | t => do
    let (n, t) ← hexDigits f digits 0 t
    let c ← charOf? n
    if !f.unicode && digits == 2 && 0x7f < n then none
    some (literal c, t)

/-- A property in braces: a name, or a name and a value with `=`, `:` or `!=` between them.  The last negates. -/
def property? (body : Text) : Option (Bool × Unicode.Property) :=
  let named := fun (negated : Bool) (sep : Nat) (n : Nat) =>
    (Unicode.Property.ofValue? (body.take n) (body.drop (n + sep))).map ((negated, ·))
  match (List.range body.length).find? fun i => (body.drop i).take 2 == ['!', '='] with
  | some n => named true 2 n
  | none => match body.findIdx? (· == ':') with
    | some n => named false 1 n
    | none => match body.findIdx? (· == '=') with
      | some n => named false 1 n
      | none => (Unicode.Property.ofName? body).map ((false, ·))

def readProperty (f : Flags) (negated : Bool) (t : Text) : Option (Escape × Text) := do
  if !f.unicode then none
  let (body, t) ← match f.skip t with
    | '\x7b' :: t => f.collect '\x7d' false t
    | '\\' :: _ => none
    | c :: t => some ([c], f.skip t)
    | [] => none
  let (opposite, p) ← property? body
  let s := f.fold (.property p)
  some (set (if negated != opposite then .compl s else s), t)

/-- The classes of digits, blanks and word characters. -/
def readPerl (f : Flags) (negated : Bool) (s ascii : CharClass) (t : Text) : Option (Escape × Text) :=
  if !f.unicode then (if negated then none else some (set ascii, t))
  else some (set (if negated then .compl s else s), t)

def wordEdge? (name : Text) : Option WordEdge :=
  match String.ofList name with
  | "start" => some .start
  | "end" => some .stop
  | "start-half" => some .startHalf
  | "end-half" => some .stopHalf
  | _ => none

def startsEdgeName (c : Char) : Bool := c.isAlpha || c == '-'

/-- What follows the letter `b`: the name of an edge in braces, or nothing that belongs to it.  Braces that do not begin
like a name are a repetition. -/
def readBoundary (f : Flags) (t : Text) : Option (Escape × Text) :=
  match t with
  | '\x7b' :: r => match f.skip r with
    | [] => none
    | c :: _ =>
      if startsEdgeName c then do
        let (name, r) ← f.collect '\x7d' false r
        let e ← wordEdge? name
        some (look (f.edge e), r)
      else some (look (f.edge .boundary), t)
  | _ => some (look (f.edge .boundary), t)

/-- ASCII characters that stand for themselves behind a backslash. -/
def escapesItself (c : Char) : Bool :=
  c.toNat < 0x80 && !c.isAlphanum && c != '<' && c != '>'

/-- Reads what follows a backslash. -/
def read (f : Flags) : Text → Option (Escape × Text)
  | [] => none
  | c :: t => match c with
    | 'x' => readHex f 2 t
    | 'u' => readHex f 4 t
    | 'U' => readHex f 8 t
    | 'p' => readProperty f false t
    | 'P' => readProperty f true t
    | 'd' => readPerl f false .digit (.range '0' '9') t
    | 'D' => readPerl f true .digit (.range '0' '9') t
    | 's' => readPerl f false .space ((CharClass.ascii? "space").getD .none) t
    | 'S' => readPerl f true .space ((CharClass.ascii? "space").getD .none) t
    | 'w' => readPerl f false .word ((CharClass.ascii? "word").getD .none) t
    | 'W' => readPerl f true .word ((CharClass.ascii? "word").getD .none) t
    | 'a' => some (literal '\x07', t)
    | 'f' => some (literal '\x0c', t)
    | 't' => some (literal '\t', t)
    | 'n' => some (literal '\n', t)
    | 'r' => some (literal '\r', t)
    | 'v' => some (literal '\x0b', t)
    | 'A' => some (look .textStart, t)
    | 'z' => some (look .textEnd, t)
    | 'b' => readBoundary f t
    | 'B' => some (look (f.edge .inside), t)
    | '<' => some (look (f.edge .start), t)
    | '>' => some (look (f.edge .stop), t)
    | c => if escapesItself c then some (literal c, t) else none

end Escape
end Regex
end ModalLexer
