import ModalLexer.Regex.Basic
/-!
# Matching

What remains to be matched is a list of expressions, one after another.  At a position of the text such a rest can do
finitely many things: be done, if nothing remains, or read one character and leave another rest.  These are its *steps*,
most preferred first.

`visit` walks through an expression without reading and collects the steps it comes upon, `leave` being the walk through
what follows the expression.  The walk prefers as the expression prefers, and it enters no place twice, a place being the
rest that lies ahead there: whatever a second visit could find has been found, or will be found by the visit that is still
under way.  So it ends by recursion on the expression, and a round of a repetition that reads nothing comes to a place
already entered and leads nowhere.

`run` keeps the rests of all matches still possible, most preferred first, and reads the text once.  Steps behind the one
that is done can never win against it and are dropped; those before it go on, and win if they are ever done later.
-/
namespace ModalLexer
namespace Regex

/-- What remains to be matched, in order. -/
abbrev Rest := List Regex

inductive Step
  | done
  | read (s : CharClass) (rest : Rest)
  deriving DecidableEq, Repr

/-- The places a walk has entered and the steps it has found, most preferred first. -/
structure Walk where
  entered : List Rest
  steps : List Step
  deriving DecidableEq, Repr

namespace Walk

def start : Walk := ⟨[], []⟩

/-- Goes on with `f` from a place, unless the walk has been there. -/
def enter (place : Rest) (f : Walk → Walk) (w : Walk) : Walk :=
  if w.entered.contains place then w else f { w with entered := place :: w.entered }

def find (s : Step) (w : Walk) : Walk := { w with steps := w.steps ++ [s] }

/-- Both ways, `more` first if `greedy`. -/
def both (greedy : Bool) (more stop : Walk → Walk) (w : Walk) : Walk :=
  if greedy then stop (more w) else more (stop w)

/-- `n` rounds of `a`, `visitRound` being the walk through one. -/
def rounds (visitRound : Rest → (Walk → Walk) → Walk → Walk) (a : Regex) (after : Rest) (leave : Walk → Walk) :
    Nat → Walk → Walk
  | 0 => leave
  | n + 1 => visitRound (times n a :: after) (rounds visitRound a after leave n)

/-- Up to `n` rounds of `a`. -/
def upTo (greedy : Bool) (visitRound : Rest → (Walk → Walk) → Walk → Walk) (a : Regex) (after : Rest)
    (leave : Walk → Walk) : Nat → Walk → Walk
  | 0 => leave
  | n + 1 =>
    enter (atMost greedy (n + 1) a :: after)
      (both greedy (visitRound (atMost greedy n a :: after) (upTo greedy visitRound a after leave n)) leave)

end Walk

open Walk

/-- Walks through an expression that is followed by `after`. -/
def visit (x : Context) : Regex → (after : Rest) → (leave : Walk → Walk) → Walk → Walk
  | empty, _, leave => leave
  | look l, _, leave => if l.holds x then leave else id
  | set s, after, _ => enter (set s :: after) (find (.read s after))
  | seq a b, after, leave => visit x a (b :: after) (visit x b after leave)
  | alt a b, after, leave => enter (alt a b :: after) fun w => visit x b after leave (visit x a after leave w)
  | star greedy a, after, leave =>
    enter (star greedy a :: after) (both greedy (visit x a (star greedy a :: after) id) leave)
  | plus greedy a, after, leave =>
    enter (plus greedy a :: after) (visit x a (again greedy a :: after) (enter (again greedy a :: after) leave))
  | again greedy a, after, leave =>
    enter (again greedy a :: after)
      (both greedy (enter (plus greedy a :: after) (visit x a (again greedy a :: after) id)) leave)
  | times n a, after, leave => rounds (visit x a) a after leave n
  | atMost greedy n a, after, leave => upTo greedy (visit x a) a after leave n

/-- Walks through a rest to its end. -/
def visitRest (x : Context) : Rest → Walk → Walk
  | [] => enter [] (find .done)
  | a :: after => visit x a after (visitRest x after)

/-- The steps of several rests at a position, those of the first before those of the second and so on. -/
def steps (x : Context) (rs : List Rest) : List Step := (rs.foldl (fun w r => visitRest x r w) .start).steps

/-- What remains after reading `c` by one of the steps before the one that is done. -/
def next (c : Char) : List Step → List Rest
  | [] => []
  | .done :: _ => []
  | .read s r :: ps => if s.contains c then r :: next c ps else next c ps

/-- The number of characters that the most preferred match of any of `rs` reads, `before` being the character to the
left of the text. -/
def run (rs : List Rest) (before : Option Char) (t : Text) : Option Nat :=
  let ps := steps ⟨before, t.head?⟩ rs
  let here := if ps.contains .done then some 0 else none
  match t with
  | [] => here
  | c :: cs =>
    match next c ps with
    | [] => here
    | rs => ((run rs (some c) cs).map (· + 1)).or here

/-- The length in characters of the most preferred match at the start of a text. -/
def matchLength? (r : Regex) (t : Text) : Option Nat := run [[r]] none t

theorem run_le_length : ∀ (t : Text) (rs : List Rest) (before : Option Char) (n : Nat),
    run rs before t = some n → n ≤ t.length
  | [], rs, before, n, h => by
    simp only [run] at h
    split at h <;> simp_all
  | c :: cs, rs, before, n, h => by
    have here : ∀ b : Bool, (if b then some 0 else none) = some n → n ≤ (c :: cs).length := by
      intro b hb
      cases b <;> simp at hb
      omega
    rw [run] at h
    split at h
    · exact here _ h
    · cases hr : run (next c (steps ⟨before, (c :: cs).head?⟩ rs)) (some c) cs with
      | none => rw [hr] at h; exact here _ h
      | some m =>
        rw [hr] at h
        have := run_le_length cs _ _ m hr
        simp only [Option.map_some, Option.some_or, Option.some.injEq] at h
        rw [← h, List.length_cons]
        omega

end Regex
end ModalLexer
