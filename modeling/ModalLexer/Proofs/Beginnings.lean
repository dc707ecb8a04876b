import ModalLexer.Proofs.Building
import ModalLexer.Proofs.Opening
import ModalLexer.Proofs.Preference
/-!
# Beginnings — what the beginning of a text decides

Often a few characters decide what a pattern takes of a text, whatever comes behind them: of all that might have been
matched nothing is left (`Regex.decides`).  So it is with rules.  Where a beginning decides every rule that is eligible
in a state, it decides the winner (`Table.choose?_append`), and where it decides all but some, the others match the text
as they match the beginning alone (`Table.mem_candidates_append`).
-/
namespace ModalLexer

namespace Regex

/-- Behind `w` nothing is left of what might have been matched, whatever follows. -/
def decides (b : Option Char) (rs : List Rest) : Text → Bool
  | [] => false
  | c :: w => match next c (steps ⟨b, some c⟩ rs) with
    | [] => true
    | rs' => decides (some c) rs' w

theorem run_append (u : Text) : ∀ {w : Text} {b : Option Char} {rs : List Rest}, decides b rs w = true →
    run rs b (w ++ u) = run rs b w
  | [], _, _, h => by cases h
  | c :: w, b, rs, h => by
    rw [decides] at h
    rw [List.cons_append, run, run]
    simp only [List.head?_cons]
    cases hn : next c (steps ⟨b, some c⟩ rs) with
    | nil => rfl
    | cons r rs' =>
      rw [hn] at h
      simp only [run_append u h]
      rfl

end Regex

namespace Pattern

/-- What the pattern takes is decided by `w`. -/
def decides (w : Text) : Pattern → Bool
  | literal t => t.isPrefixOf w || !w.isPrefixOf t
  | regex _ r => Regex.decides none [[r]] w
  | scan _ => false

theorem matchLength?_append {p : Pattern} {w : Text} (h : p.decides w = true) (u : Text) :
    p.matchLength? (w ++ u) = p.matchLength? w := by
  cases p with
  | literal t =>
    have hiff : t.isPrefixOf (w ++ u) = t.isPrefixOf w := by
      rw [Bool.eq_iff_iff, List.isPrefixOf_iff_prefix, List.isPrefixOf_iff_prefix]
      refine ⟨fun ht => ?_, fun ht => ht.trans (List.prefix_append w u)⟩
      -- the literal and the beginning would both begin the text, so one begins the other
      rcases List.prefix_or_prefix_of_prefix ht (List.prefix_append w u) with htw | hwt
      · exact htw
      · rw [decides, List.isPrefixOf_iff_prefix.2 hwt, Bool.not_true, Bool.or_false] at h
        exact List.isPrefixOf_iff_prefix.1 h
    rw [matchLength?, matchLength?, hiff]
  | regex v r => rw [matchLength?, matchLength?, Regex.matchLength?, Regex.matchLength?, Regex.run_append u h]
  | scan f => cases h

end Pattern

namespace Table

variable {t : Table} {q : State} {w : Text} {names : List String} {m : Match}

/-- `w` decides what is taken by every rule that is eligible in a state, those of the given names apart. -/
def decides (t : Table) (q : State) (w : Text) (names : List String) : Bool :=
  (t.eligible q).all fun e => names.contains e.1.name || e.1.pattern.decides w

/-- **A rule that a beginning decides** matches the text as it matches the beginning. -/
theorem mem_candidates_append (h : t.decides q w names = true) (hm : m.rule.name ∉ names) (u : Text) :
    m ∈ t.candidates q (w ++ u) ↔ m ∈ t.candidates q w := by
  rw [mem_candidates, mem_candidates]
  refine and_congr_right fun he => ?_
  have hd := List.all_eq_true.1 h _ he
  simp only [List.contains_eq_mem, hm, decide_false, Bool.false_or] at hd
  rw [Pattern.matchLength?_append hd]

/-- **A beginning that decides every rule** decides the winner, if what follows makes no difference to the others. -/
theorem choose?_append (h : t.decides q w names = true) (p : Policy) {u : Text}
    (hn : ∀ r ∈ t.rules, r.name ∈ names → r.pattern.matchLength? (w ++ u) = r.pattern.matchLength? w) :
    t.choose? p q (w ++ u) = t.choose? p q w := by
  have hc : t.candidates q (w ++ u) = t.candidates q w := by
    refine List.filterMap_congr fun e he => ?_
    by_cases hname : e.1.name ∈ names
    · rw [hn e.1 (List.mem_of_getElem? (mem_eligible.1 he).1) hname]
    · have hd := List.all_eq_true.1 h e he
      simp only [List.contains_eq_mem, hname, decide_false, Bool.false_or] at hd
      rw [Pattern.matchLength?_append hd]
  cases p <;> simp only [choose?, hc]

end Table
end ModalLexer
