import Mathlib.Data.List.Basic
import ModalLexer.Proofs.Step
/-!
# Preference — which match wins

Under the policy `longest` matches are ordered by a number (`Match.rank`): twice the length, and one more for a literal.
The winner is the first of the greatest rank (`longest?_eq_some_iff`).  So taking away matches that did not win changes
nothing (`longest?_filter`), which is how two states with different rules can be compared: where every rule that matches
in the one is eligible in the other, and the winner of the other is eligible in the one, both choose the same
(`choose?_of_shared`).
-/
namespace ModalLexer

/-- The order of preference as a number. -/
def Match.rank (m : Match) : Nat := 2 * m.length + if m.rule.pattern.isLiteral then 1 else 0

/-- Lengths are compared first, and between matches as long a literal goes before any other. -/
theorem Match.rank_le_iff {m n : Match} : m.rank ≤ n.rank ↔ m.length < n.length ∨
    m.length = n.length ∧ (m.rule.pattern.isLiteral = true → n.rule.pattern.isLiteral = true) := by
  unfold rank
  cases m.rule.pattern.isLiteral <;> cases n.rule.pattern.isLiteral <;> simp <;> omega

theorem Match.rank_eq_iff {m n : Match} :
    m.rank = n.rank ↔ m.length = n.length ∧ m.rule.pattern.isLiteral = n.rule.pattern.isLiteral := by
  unfold rank
  cases m.rule.pattern.isLiteral <;> cases n.rule.pattern.isLiteral <;> simp <;> omega

theorem Match.length_le_of_rank {m n : Match} (h : m.rank ≤ n.rank) : m.length ≤ n.length := by
  rcases rank_le_iff.1 h with hlt | ⟨heq, -⟩
  · exact Nat.le_of_lt hlt
  · exact Nat.le_of_eq heq

namespace Table

theorem better_iff (m n : Match) : better m n = true ↔ m.rank < n.rank := by
  unfold better Match.rank
  rw [Bool.or_eq_true, decide_eq_true_eq, Bool.and_eq_true, Bool.and_eq_true, beq_iff_eq, Bool.not_eq_true']
  cases m.rule.pattern.isLiteral <;> cases n.rule.pattern.isLiteral <;> simp <;> omega

theorem foldl_better_of_le : ∀ (ms : List Match) (m : Match), (∀ n ∈ ms, n.rank ≤ m.rank) →
    ms.foldl (fun best n => if better best n then n else best) m = m
  | [], _, _ => rfl
  | n :: ms, m, h => by
    have hn : ¬better m n = true := fun hb => Nat.not_lt.2 (h n List.mem_cons_self) ((better_iff m n).1 hb)
    rw [List.foldl_cons, if_neg hn]
    exact foldl_better_of_le ms m fun k hk => h k (List.mem_cons_of_mem _ hk)

theorem rank_le_of_mem {before after : List Match} {best n : Match} (h1 : ∀ n ∈ before, n.rank < best.rank)
    (h2 : ∀ n ∈ after, n.rank ≤ best.rank) (hn : n ∈ before ++ best :: after) : n.rank ≤ best.rank := by
  rcases List.mem_append.1 hn with h | h
  · exact Nat.le_of_lt (h1 n h)
  · rcases List.mem_cons.1 h with rfl | h
    · exact Nat.le_refl _
    · exact h2 n h

/-- **The winner is the first of the greatest rank.** -/
theorem foldl_better_split : ∀ (ms : List Match) (m : Match), ∃ before best after,
    ms.foldl (fun best n => if better best n then n else best) m = best ∧ m :: ms = before ++ best :: after ∧
      (∀ n ∈ before, n.rank < best.rank) ∧ ∀ n ∈ after, n.rank ≤ best.rank
  | [], m => ⟨[], m, [], rfl, rfl, by simp, by simp⟩
  | k :: ms, m => by
    rw [List.foldl_cons]
    by_cases hb : better m k = true
    · rw [if_pos hb]
      obtain ⟨before, best, after, hf, hs, h1, h2⟩ := foldl_better_split ms k
      refine ⟨m :: before, best, after, hf, by rw [hs]; rfl, fun n hn => ?_, h2⟩
      have hmk := (better_iff m k).1 hb
      have hk : k.rank ≤ best.rank := rank_le_of_mem h1 h2 (hs ▸ List.mem_cons_self)
      rcases List.mem_cons.1 hn with rfl | hn
      · omega
      · exact h1 n hn
    · rw [if_neg hb]
      have hmk : k.rank ≤ m.rank := Nat.not_lt.1 fun h => hb ((better_iff m k).2 h)
      obtain ⟨before, best, after, hf, hs, h1, h2⟩ := foldl_better_split ms m
      cases before with
      | nil =>
        obtain ⟨rfl, rfl⟩ := List.cons.inj hs
        refine ⟨[], m, k :: ms, hf, rfl, by simp, fun n hn => ?_⟩
        rcases List.mem_cons.1 hn with rfl | hn
        · exact hmk
        · exact h2 n hn
      | cons b before =>
        obtain ⟨rfl, htail⟩ := List.cons.inj hs
        refine ⟨m :: k :: before, best, after, hf, by rw [htail]; rfl, fun n hn => ?_, h2⟩
        have hm := h1 m List.mem_cons_self
        rcases List.mem_cons.1 hn with rfl | hn
        · exact hm
        · rcases List.mem_cons.1 hn with rfl | hn
          · omega
          · exact h1 n (List.mem_cons_of_mem _ hn)

theorem longest?_eq_some_iff {ms : List Match} {m : Match} :
    longest? ms = some m ↔ ∃ before after, ms = before ++ m :: after ∧ (∀ n ∈ before, n.rank < m.rank) ∧
      ∀ n ∈ after, n.rank ≤ m.rank := by
  constructor
  · intro h
    cases ms with
    | nil => cases h
    | cons a as =>
      obtain ⟨before, best, after, hf, hs, h1, h2⟩ := foldl_better_split as a
      rw [longest?, hf, Option.some.injEq] at h
      subst h
      exact ⟨before, after, hs, h1, h2⟩
  · rintro ⟨before, after, rfl, h1, h2⟩
    cases before with
    | nil => rw [List.nil_append, longest?, foldl_better_of_le after m h2]
    | cons a as =>
      rw [List.cons_append, longest?, List.foldl_append, List.foldl_cons]
      have hlt := h1 _ (foldl_better_mem as a)
      rw [if_pos ((better_iff _ _).2 hlt), foldl_better_of_le after m h2]

/-- **Taking away matches that did not win changes nothing.** -/
theorem longest?_filter {ms : List Match} {m : Match} {f : Match → Bool} (h : longest? ms = some m) (hm : f m = true) :
    longest? (ms.filter f) = some m := by
  obtain ⟨before, after, rfl, h1, h2⟩ := longest?_eq_some_iff.1 h
  refine longest?_eq_some_iff.2 ⟨before.filter f, after.filter f, ?_, fun n hn => ?_, fun n hn => ?_⟩
  · rw [List.filter_append, List.filter_cons_of_pos hm]
  · exact h1 n (List.mem_filter.1 hn).1
  · exact h2 n (List.mem_filter.1 hn).1

variable {t : Table} {q q' : State} {rest : Text} {m n : Match}

theorem longest_max (h : t.choose? .longest q rest = some m) (hn : n ∈ t.candidates q rest) : n.rank ≤ m.rank := by
  obtain ⟨before, after, hs, h1, h2⟩ := longest?_eq_some_iff.1 h
  exact rank_le_of_mem h1 h2 (hs ▸ hn)

/-- A rule that is eligible and matches has its match among the candidates. -/
theorem exists_candidate {r : Rule} {n : Nat} (hr : r ∈ t.rules) (hq : r.mask.contains q = true)
    (hn : r.pattern.matchLength? rest = some n) : ∃ i, (⟨i, r, n⟩ : Match) ∈ t.candidates q rest := by
  obtain ⟨i, hi⟩ := List.getElem?_of_mem hr
  exact ⟨i, mem_candidates.2 ⟨mem_eligible.2 ⟨hi, hq⟩, hn⟩⟩

/-- **No match is longer than the winner.** -/
theorem longest_length (h : t.choose? .longest q rest = some m) (hn : n ∈ t.candidates q rest) :
    n.length ≤ m.length :=
  Match.length_le_of_rank (longest_max h hn)

/-- Where every rule that matches in `q'` is eligible in `q`, the candidates of `q'` are among those of `q`. -/
theorem candidates_eq_filter
    (h : ∀ r ∈ t.rules, r.mask.contains q' = true → (r.pattern.matchLength? rest).isSome = true →
      r.mask.contains q = true) :
    t.candidates q' rest = (t.candidates q rest).filter (·.rule.mask.contains q') := by
  unfold candidates eligible
  rw [List.filterMap_filter, List.filterMap_filter, List.filter_filterMap]
  refine List.filterMap_congr fun e he => ?_
  cases hm : e.1.pattern.matchLength? rest with
  | none => simp
  | some n =>
    cases hq' : e.1.mask.contains q' with
    | true =>
      have hq := h e.1 (List.mem_of_getElem? (List.mem_zipIdx_iff_getElem?.1 he)) hq' (by rw [hm]; rfl)
      simp [hq, hq', Option.filter]
    | false => cases e.1.mask.contains q <;> simp [hq', Option.filter]

/-- **Two states choose the same** where they share the winner and all that matches. -/
theorem choose?_of_shared (h : t.choose? .longest q rest = some m) (hm : m.rule.mask.contains q' = true)
    (hs : ∀ r ∈ t.rules, r.mask.contains q' = true → (r.pattern.matchLength? rest).isSome = true →
      r.mask.contains q = true) : t.choose? .longest q' rest = some m := by
  rw [choose?, candidates_eq_filter hs]
  exact longest?_filter h hm

end Table
end ModalLexer
