import ModalLexer.Regex.Form
import ModalLexer.Text.Utf8
import Std.Data.HashMap
/-!
# The size of a pattern

A pattern is admitted if the automaton that matches it fits into `budget` bytes, and so does the one that matches it
backwards.  This module counts the bytes without building either (`Form.fits`).

The automata read bytes.  Each state takes `stateBytes`; one that branches on the next byte takes `edgeBytes` more for
each of its edges, and one that branches without reading `linkBytes` more for each of its links.  A repetition with counts
is written out, so it takes as many copies of its round as it may make.

Classes beyond ASCII are where most of the memory goes, and their states are shared.  Forwards, the byte sequences of a
class come in order, and equal nodes of the tree that they form are made once.  Backwards, sequences share the states of
the bytes they have in common at the front, which are read last.  In both cases what has been made is remembered in a
table with a fixed number of slots, and forgotten when its slot is needed for something else.  The number of states thus
depends on the numbers of the states, and copies of a class may differ in size.
-/
namespace ModalLexer
namespace Regex

open Utf8 (ByteRange)

namespace Size

def budget : Nat := 10485760

def stateBytes : Nat := 32

def edgeBytes : Nat := 8

def linkBytes : Nat := 4

/-- What has been built: a number of states, and the bytes of their edges and links.  The states are numbered from zero. -/
structure Tally where
  states : Nat
  extra : Nat
  deriving DecidableEq, Repr

namespace Tally

def none : Tally := ⟨0, 0⟩

def bytes (t : Tally) : Nat := t.states * stateBytes + t.extra

/-- One state that goes on without branching. -/
def state (t : Tally) : Tally := { t with states := t.states + 1 }

/-- One state that branches on the next byte. -/
def edges (n : Nat) (t : Tally) : Tally := ⟨t.states + 1, t.extra + n * edgeBytes⟩

/-- One state that branches without reading. -/
def links (n : Nat) (t : Tally) : Tally := ⟨t.states + 1, t.extra + n * linkBytes⟩

def stateTimes (n : Nat) (t : Tally) : Tally := { t with states := t.states + n }

/-- A class of ASCII characters: a state with an edge for each range, and one where the edges meet. -/
def asciiClass (n : Nat) (t : Tally) : Tally := t.state.edges n

end Tally

/-- Mixes a number into a hash. -/
def mix (h : UInt64) (n : Nat) : UInt64 := (h ^^^ n.toUInt64) * 1099511628211

def hashStart : UInt64 := 14695981039346656037

/-! ## Classes forwards -/

structure Edge where
  bytes : ByteRange
  target : Nat
  deriving DecidableEq, Repr

/-- The edges of a node, last first. -/
abbrev Node := List Edge

def nodeSlots : UInt64 := 10000

def Node.slot (n : Node) : UInt64 :=
  n.foldr (fun e h => mix (mix (mix h e.bytes.first) e.bytes.last) e.target) hashStart % nodeSlots

/-- The states built and the nodes remembered, with their states. -/
structure Nodes where
  tally : Tally
  table : Std.HashMap UInt64 (Node × Nat)

def Nodes.make (b : Nodes) (n : Node) (slot : UInt64) : Nat × Nodes :=
  (b.tally.states, ⟨b.tally.edges n.length, b.table.insert slot (n, b.tally.states)⟩)

/-- The state of a node, which is made unless it is remembered. -/
def Nodes.add (b : Nodes) (n : Node) : Nat × Nodes :=
  let slot := n.slot
  match b.table[slot]? with
  | some (m, s) => if m = n then (s, b) else b.make n slot
  | none => b.make n slot

/-- A node that still grows: its finished edges, last first, and the bytes of the edge to the next node of the path. -/
structure Open where
  edges : Node
  bytes : ByteRange
  deriving DecidableEq, Repr

/-- Finishes a path.  Its last node leads to `target`. -/
def close (target : Nat) : List Open → Nodes → Nat × Nodes
  | [], b => (target, b)
  | o :: os, b =>
    let (s, b) := close target os b
    b.add (⟨o.bytes, s⟩ :: o.edges)

/-- Goes on from the path of the sequence before to that of the next sequence. -/
def extend (target : Nat) : List Open → List ByteRange → Nodes → List Open × Nodes
  | o :: os, r :: rs, b =>
    if o.bytes = r then
      let (os, b) := extend target os rs b
      (o :: os, b)
    else
      let (s, b) := close target os b
      (⟨⟨o.bytes, s⟩ :: o.edges, r⟩ :: rs.map (⟨[], ·⟩), b)
  | _, rs, b => (rs.map (⟨[], ·⟩), b)

/-- The automaton of a class, given by its byte sequences in increasing order. -/
def classForwards (seqs : List (List ByteRange)) (t : Tally) : Tally :=
  let target := t.states
  let (path, b) := seqs.foldl (fun (path, b) rs => extend target path rs b) ([], ⟨t.state, {}⟩)
  (close target path b).2.tally

/-! ## Classes backwards -/

/-- A state that reads a byte and leads on. -/
structure Arrow where
  bytes : ByteRange
  target : Nat
  deriving DecidableEq, Repr

def arrowSlots : UInt64 := 1000

def Arrow.slot (a : Arrow) : UInt64 :=
  mix (mix (mix hashStart a.target) a.bytes.first) a.bytes.last % arrowSlots

/-- The states built and the arrows remembered, with their states. -/
structure Arrows where
  tally : Tally
  table : Std.HashMap UInt64 (Arrow × Nat)

def Arrows.make (b : Arrows) (a : Arrow) (slot : UInt64) : Nat × Arrows :=
  (b.tally.states, ⟨b.tally.state, b.table.insert slot (a, b.tally.states)⟩)

def Arrows.add (b : Arrows) (a : Arrow) : Nat × Arrows :=
  let slot := a.slot
  match b.table[slot]? with
  | some (c, s) => if c = a then (s, b) else b.make a slot
  | none => b.make a slot

/-- Reads a sequence backwards: the first byte leads to the end, and each other byte to the one before it. -/
def sequenceBackwards (target : Nat) (rs : List ByteRange) (b : Arrows) : Arrows :=
  (rs.foldl (fun (s, b) r => b.add ⟨r, s⟩) (target, b)).2

/-- The automaton of a class backwards: a link to each sequence, and a state where the sequences meet. -/
def classBackwards (seqs : List (List ByteRange)) (t : Tally) : Tally :=
  let target := t.states + 1
  (seqs.foldl (fun b rs => sequenceBackwards target rs b) ⟨(t.links seqs.length).state, {}⟩).tally

/-! ## Choices between words -/

/-- The words that go on with each byte, in the order in which the bytes first come. -/
def byFirst : List (List Nat) → List (Nat × List (List Nat)) → List (Nat × List (List Nat))
  | [], groups => groups
  | [] :: ws, groups => byFirst ws groups
  | (c :: w) :: ws, groups =>
    byFirst ws (if groups.any (·.1 == c) then groups.map fun g => if g.1 = c then (c, g.2 ++ [w]) else g
      else groups ++ [(c, [w])])

/-- Splits words where one of them ends: what comes after it in the order of preference is tried after it.  That a word
ends before any goes on is noted once. -/
def stretches (ws : List (List Nat)) : List (List (List Nat)) :=
  let step := fun (acc : List (List (List Nat)) × List (List Nat)) (w : List Nat) =>
    if !w.isEmpty then (acc.1, acc.2 ++ [w])
    else if acc.2.isEmpty && acc.1.all (·.isEmpty) && !acc.1.isEmpty then acc
    else (acc.1 ++ [acc.2], [])
  let (done, last) := ws.foldl step ([], [])
  done ++ [last]

/-- A node of the tree of words, and the nodes below it.  For each stretch it has a state with an edge for each byte, and
it links to these and, between them, to the end.  Where no word goes on there is no node. -/
def words : (fuel : Nat) → List (List Nat) → Tally → Tally
  | 0, _, t => t
  | n + 1, ws, t =>
    if ws.all (·.isEmpty) then t
    else
      let parts := (stretches ws).map fun p => byFirst p []
      let t := parts.foldl (fun t gs => gs.foldl (fun t g => words n g.2 t) t) t
      let t := parts.foldl (fun t gs => match gs.length with
        | 0 => t
        | 1 => t.state
        | k => t.edges k) t
      t.links ((parts.filter (!·.isEmpty)).length + (parts.length - 1))

/-! ## Forms -/

/-- What a part of the automaton adds to what has been built. -/
structure Growth where
  run : Tally → Tally

namespace Growth

def none : Growth := ⟨id⟩

def state : Growth := ⟨Tally.state⟩

def links (n : Nat) : Growth := ⟨Tally.links n⟩

def append (g h : Growth) : Growth := ⟨fun t => h.run (g.run t)⟩

instance : Append Growth := ⟨append⟩

def timesRun (f : Tally → Tally) : Nat → Tally → Tally
  | 0, t => t
  | n + 1, t => if t.bytes ≤ budget then timesRun f n (f t) else t

/-- `n` copies.  Nothing more is added once the budget is exceeded. -/
def times (n : Nat) (g : Growth) : Growth := ⟨timesRun g.run n⟩

end Growth

/-- Exactly `n` rounds. -/
def exactly (n : Nat) (g : Growth) : Growth := if n = 0 then .state else g.times n

/-- The states of a repetition, round by round. -/
def repetition (least : Nat) (most : Option Nat) (nullable : Bool) (g : Growth) : Growth :=
  match most with
  | some m =>
    if m = least then exactly least g
    else if least = 0 && m = 1 then .links 2 ++ g ++ .state
    else exactly least g ++ .state ++ (Growth.links 2 ++ g).times (m - least)
  | none => match least with
    | 0 => if nullable then g ++ .links 2 ++ .links 2 ++ .state else .links 2 ++ g
    | 1 => g ++ .links 2
    | n + 1 => exactly n g ++ g ++ .links 2

/-- The states of a choice: those of its first two branches, one that links to all branches, one where they meet, and those
of the other branches. -/
def alternatives : List Growth → Growth
  | [] => .none
  | [g] => g
  | g :: h :: gs => gs.foldl (· ++ ·) (g ++ h ++ .links (gs.length + 2) ++ .state)

/-- Whether a set consists of ASCII characters. -/
def isAscii (rs : Unicode.Ranges) : Bool := rs.all (·.last < 0x80)

end Size

open Size

namespace Form

/-- The words between which a form chooses, if it does nothing else. -/
def words? : Form → Option (List (List Nat))
  | alt a b => (alt a b).branches.mapM fun
    | run t => some (t.flatMap fun c => Utf8.encode c.toNat)
    | _ => none
  | _ => none

/-- The states of a form, given those of its branches. -/
def join (backwards : Bool) (a : Form) (gs : List Growth) : Growth :=
  match a.words? with
  | some ws =>
    let ws := if backwards then ws.map List.reverse else ws
    .state ++ ⟨words ((ws.map (·.length)).foldl max 0 + 1) ws⟩
  | none => alternatives gs

/-- The states of the branches of a form, forwards or backwards.  Backwards the parts of a sequence come in the opposite
order, and nothing is captured. -/
def growths (backwards : Bool) : Form → List Growth
  | empty => [.state]
  | fail => [⟨Tally.asciiClass 0⟩]
  | run t => [⟨Tally.stateTimes (Text.bytes t)⟩]
  | set s =>
    let rs := s.ranges
    if isAscii rs then [⟨Tally.asciiClass rs.length⟩]
    else if backwards then [⟨classBackwards (rs.flatMap Utf8.sequences)⟩]
    else [⟨classForwards (rs.flatMap Utf8.sequences)⟩]
  | look _ => [.state]
  | rep least most _ a =>
    [repetition least most (a.minLength?.all (· = 0)) (a.join backwards (a.growths backwards))]
  | capture _ a =>
    let g := a.join backwards (a.growths backwards)
    [if backwards then g else .state ++ g ++ .state]
  | cat a b =>
    let g := a.join backwards (a.growths backwards)
    let h := b.join backwards (b.growths backwards)
    [if backwards then h ++ g else g ++ h]
  | alt a b => a.join backwards (a.growths backwards) :: b.growths backwards

/-- The automaton of a form: a beginning, which passes over what precedes the match unless the match has to begin where
the text does, the form itself, captured as a whole when read forwards, and the state of success. -/
def tally (backwards : Bool) (a : Form) : Tally :=
  let anchored := if backwards then a.endsWith .textEnd else a.beginsWith .textStart
  let start := if anchored then Tally.none.state else (Tally.none.links 2).state.edges 1
  let g := a.join backwards (a.growths backwards)
  ((if backwards then g else .state ++ g ++ .state).run start).state

/-- No less than the bytes of either automaton, the beginning and the end apart.  Each range of a class counts as the 21
byte sequences that it may split into, and each sequence as four states with an edge. -/
def bound : Form → Nat
  | empty => 32
  | fail => 64
  | run t => 96 * Text.bytes t
  | set s =>
    let rs := s.ranges
    if isAscii rs then 64 + 8 * rs.length else 64 + 3360 * rs.length
  | look _ => 32
  | rep least most _ a => (max least (most.getD 0) + 1) * (a.bound + 40) + 120
  | capture _ a => a.bound + 64
  | cat a b => a.bound + b.bound
  | alt a b => a.bound + b.bound + 80

/-- Whether both automata fit into the budget.  The bound saves most patterns the counting. -/
def fits (a : Form) : Bool :=
  a.bound + 200 ≤ budget || ((a.tally false).bytes ≤ budget && (a.tally true).bytes ≤ budget)

end Form
end Regex
end ModalLexer
