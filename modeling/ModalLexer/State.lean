import ModalLexer.Location
/-!
# States and the stack of entered states

A rule table declares named states; the innermost entered one governs which rules apply.  A stack of states has a
bottom that is never left, so it is never empty: it is a top frame above a list of others, and leaving the last frame
is refused by `pop?`.
-/
namespace ModalLexer

/-- A state of a rule table.  `id` is its place in the order of declaration. -/
structure State where
  id : Nat
  name : String
  balanced : Bool
  deriving DecidableEq, Repr

structure Frame where
  state : State
  openedAt : Location
  deriving DecidableEq, Repr

structure StateStack where
  top : Frame
  below : List Frame
  deriving DecidableEq, Repr

namespace StateStack

def bottom (s : State) (loc : Location) : StateStack := ⟨⟨s, loc⟩, []⟩

def push (k : StateStack) (s : State) (loc : Location) : StateStack := ⟨⟨s, loc⟩, k.top :: k.below⟩

/-- The innermost state and the stack without it, unless it is the bottom. -/
def pop? (k : StateStack) : Option (State × StateStack) :=
  match k.below with
  | [] => none
  | f :: fs => some (k.top.state, ⟨f, fs⟩)

/-- How many states have been entered above the bottom. -/
def depth (k : StateStack) : Nat := k.below.length

def frames (k : StateStack) : List Frame := k.top :: k.below

/-- The states from the bottom to the top. -/
def states (k : StateStack) : List State := (k.frames.map (·.state)).reverse

@[simp] theorem pop?_push (k : StateStack) (s : State) (loc : Location) : (k.push s loc).pop? = some (s, k) := rfl

@[simp] theorem pop?_bottom (s : State) (loc : Location) : (bottom s loc).pop? = none := rfl

@[simp] theorem depth_push (k : StateStack) (s : State) (loc : Location) : (k.push s loc).depth = k.depth + 1 := rfl

theorem pop?_eq_none_iff (k : StateStack) : k.pop? = none ↔ k.depth = 0 := by
  unfold pop? depth
  cases k.below <;> simp

/-- Leaving a state takes its frame away. -/
theorem frames_of_pop? {k k' : StateStack} {s : State} (h : k.pop? = some (s, k')) :
    s = k.top.state ∧ k.frames = k.top :: k'.frames := by
  unfold pop? at h
  split at h
  · cases h
  · rename_i f fs hb
    cases h
    exact ⟨rfl, by rw [frames, hb, frames]⟩

@[simp] theorem states_push (k : StateStack) (s : State) (loc : Location) :
    (k.push s loc).states = k.states ++ [s] := by
  simp [states, frames, push]

end StateStack
end ModalLexer
