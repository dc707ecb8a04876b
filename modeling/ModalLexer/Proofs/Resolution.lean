import ModalLexer.Table.Builder
import ModalLexer.Table.Offsets
import ModalLexer.Proofs.Preference
/-!
# Resolution — which rule wins at an offset

Both policies are settled by the rules that are eligible and match, each with the bytes it takes (`Table.Takes`).  The
matches stand in the order of the table (`candidates_sorted`), so the first of them has the least place, and the first of
the greatest rank is the first literal among the longest, or the first of the longest where no literal is among them
(`rules_resolve`).
-/
namespace ModalLexer
namespace Table

variable {t : Table} {q : State} {rest text : Text} {offset : Nat} {m n : Match}

/-- A rule of the table, at place `i`, is eligible in a state and takes `n` bytes of a text from an offset on. -/
structure Takes (t : Table) (q : State) (text : Text) (offset i : Nat) (r : Rule) (n : Nat) : Prop where
  place : t.rules[i]? = some r
  eligible : r.mask.contains q = true
  takes : r.pattern.matchAt? text offset = some n

/-! ## The order of matches -/

theorem candidates_sorted (t : Table) (q : State) (rest : Text) :
    (t.candidates q rest).Pairwise fun m n => m.index < n.index := by
  have hplaces : t.rules.zipIdx.Pairwise fun e f => e.2 < f.2 := by
    rw [← List.pairwise_map, List.zipIdx_map_snd]
    exact List.pairwise_lt_range' 1
  refine (hplaces.filter _).filterMap _ fun e f hlt m hm n hn => ?_
  obtain ⟨-, -, rfl⟩ := Option.map_eq_some_iff.1 hm
  obtain ⟨-, -, rfl⟩ := Option.map_eq_some_iff.1 hn
  exact hlt

/-- Where all matches stand in one place there is one match. -/
theorem candidates_eq_singleton (hm : m ∈ t.candidates q rest) (hall : ∀ n ∈ t.candidates q rest, n.index = m.index) :
    t.candidates q rest = [m] := by
  have hsorted := candidates_sorted t q rest
  cases hc : t.candidates q rest with
  | nil =>
    rw [hc] at hm
    cases hm
  | cons a as =>
    rw [hc] at hm hall hsorted
    cases as with
    | nil => rw [List.mem_singleton.1 hm]
    | cons b as =>
      have hlt := (List.pairwise_cons.1 hsorted).1 b List.mem_cons_self
      rw [hall a (by simp), hall b (by simp)] at hlt
      exact absurd hlt (Nat.lt_irrefl _)

/-- A match without others wins under either policy. -/
theorem choose?_of_singleton (h : t.candidates q rest = [m]) (p : Policy) : t.choose? p q rest = some m := by
  cases p <;> rw [choose?, h] <;> rfl

/-- **The first match** is the one with the least place. -/
theorem choose?_first_iff :
    t.choose? .first q rest = some m ↔
      m ∈ t.candidates q rest ∧ ∀ n ∈ t.candidates q rest, m.index ≤ n.index := by
  have hsorted := candidates_sorted t q rest
  rw [choose?]
  cases hc : t.candidates q rest with
  | nil => simp
  | cons a as =>
    rw [hc, List.pairwise_cons] at hsorted
    rw [List.head?_cons, Option.some.injEq]
    constructor
    · rintro rfl
      refine ⟨List.mem_cons_self, fun n hn => ?_⟩
      rcases List.mem_cons.1 hn with rfl | hn
      · exact Nat.le_refl _
      · exact Nat.le_of_lt (hsorted.1 n hn)
    · rintro ⟨hm, hle⟩
      rcases List.mem_cons.1 hm with rfl | hm
      · rfl
      · exact absurd (hsorted.1 m hm) (Nat.not_lt.2 (hle a List.mem_cons_self))

/-- **The winner by length** is the match with the least place among those of the greatest rank. -/
theorem choose?_longest_iff :
    t.choose? .longest q rest = some m ↔
      m ∈ t.candidates q rest ∧
        ∀ n ∈ t.candidates q rest, n.rank ≤ m.rank ∧ (n.rank = m.rank → m.index ≤ n.index) := by
  have hsorted := candidates_sorted t q rest
  rw [choose?, longest?_eq_some_iff]
  constructor
  · rintro ⟨before, after, hs, h1, h2⟩
    rw [hs] at hsorted ⊢
    refine ⟨List.mem_append_right _ List.mem_cons_self, fun n hn => ⟨rank_le_of_mem h1 h2 hn, fun heq => ?_⟩⟩
    rcases List.mem_append.1 hn with hn | hn
    · exact absurd heq (Nat.ne_of_lt (h1 n hn))
    · rcases List.mem_cons.1 hn with rfl | hn
      · exact Nat.le_refl _
      · exact Nat.le_of_lt ((List.pairwise_cons.1 (List.pairwise_append.1 hsorted).2.1).1 n hn)
  · rintro ⟨hm, hbest⟩
    obtain ⟨before, after, hs⟩ := List.append_of_mem hm
    rw [hs] at hsorted hbest
    refine ⟨before, after, hs, fun n hn => ?_, fun n hn => ?_⟩
    · obtain ⟨hle, hfirst⟩ := hbest n (List.mem_append_left _ hn)
      have hlt : n.index < m.index := (List.pairwise_append.1 hsorted).2.2 n hn m List.mem_cons_self
      refine Nat.lt_of_le_of_ne hle fun heq => ?_
      exact absurd hlt (Nat.not_lt.2 (hfirst heq))
    · exact (hbest n (List.mem_append_right _ (List.mem_cons_of_mem _ hn))).1

/-- **The winner by length** is a longest match: the first literal of that length, or the first match of that length if
none of them is a literal. -/
theorem longest_wins_iff :
    t.choose? .longest q rest = some m ↔
      m ∈ t.candidates q rest ∧ (∀ n ∈ t.candidates q rest, n.length ≤ m.length) ∧
        ((m.rule.pattern.isLiteral = true ∧ ∀ n ∈ t.candidates q rest, n.length = m.length →
            n.rule.pattern.isLiteral = true → m.index ≤ n.index) ∨
          ∀ n ∈ t.candidates q rest, n.length = m.length →
            n.rule.pattern.isLiteral = false ∧ m.index ≤ n.index) := by
  rw [choose?_longest_iff]
  refine and_congr_right fun _ => ?_
  constructor
  · intro hbest
    refine ⟨fun n hn => Match.length_le_of_rank (hbest n hn).1, ?_⟩
    cases hm : m.rule.pattern.isLiteral with
    | true => exact .inl ⟨rfl, fun n hn heq hlit => (hbest n hn).2 (Match.rank_eq_iff.2 ⟨heq, hlit.trans hm.symm⟩)⟩
    | false =>
      refine .inr fun n hn heq => ?_
      obtain ⟨hle, hfirst⟩ := hbest n hn
      -- a literal of the same length would have the greater rank
      have hlit : n.rule.pattern.isLiteral = false := by
        rcases Match.rank_le_iff.1 hle with hlt | ⟨-, himp⟩
        · exact absurd heq (Nat.ne_of_lt hlt)
        · simpa [hm] using himp
      exact ⟨hlit, hfirst (Match.rank_eq_iff.2 ⟨heq, hlit.trans hm.symm⟩)⟩
  · rintro ⟨hlength, htie⟩ n hn
    rw [Match.rank_le_iff, Match.rank_eq_iff]
    rcases Nat.lt_or_eq_of_le (hlength n hn) with hlt | heq
    · exact ⟨.inl hlt, fun h => absurd h.1 (Nat.ne_of_lt hlt)⟩
    · rcases htie with ⟨hm, hfirst⟩ | hfirst
      · exact ⟨.inr ⟨heq, fun _ => hm⟩, fun h => hfirst n hn heq (h.2.trans hm)⟩
      · obtain ⟨hlit, hle⟩ := hfirst n hn heq
        exact ⟨.inr ⟨heq, fun h => Bool.noConfusion (h.symm.trans hlit)⟩, fun _ => hle⟩

end Table

/-! ## In bytes -/

theorem Text.bytes_take_lt {t : Text} {a b : Nat} (hab : a < b) (hb : b ≤ t.length) :
    Text.bytes (t.take a) < Text.bytes (t.take b) := by
  have hsplit : t.take b = t.take a ++ (t.drop a).take (b - a) := by
    rw [← List.take_add, Nat.add_sub_cancel' (Nat.le_of_lt hab)]
  have hne : (t.drop a).take (b - a) ≠ [] := by
    rw [← List.length_pos_iff, List.length_take, List.length_drop]
    omega
  have hpos := Text.bytes_pos hne
  rw [hsplit, Text.bytes_append]
  omega

theorem Text.bytes_take_le_iff {t : Text} {a b : Nat} (ha : a ≤ t.length) (hb : b ≤ t.length) :
    Text.bytes (t.take a) ≤ Text.bytes (t.take b) ↔ a ≤ b := by
  rcases Nat.lt_trichotomy a b with h | rfl | h
  · have := Text.bytes_take_lt h hb
    omega
  · simp
  · have := Text.bytes_take_lt h ha
    omega

theorem Text.bytes_take_inj {t : Text} {a b : Nat} (ha : a ≤ t.length) (hb : b ≤ t.length) :
    Text.bytes (t.take a) = Text.bytes (t.take b) ↔ a = b := by
  have h1 := Text.bytes_take_le_iff ha hb
  have h2 := Text.bytes_take_le_iff hb ha
  omega

namespace Table

variable {t : Table} {q : State} {rest text : Text} {offset i n : Nat} {p : Policy} {r : Rule}

theorem takes_iff (hrest : text.dropBytes? offset = some rest) :
    t.Takes q text offset i r n ↔ ∃ k, ⟨i, r, k⟩ ∈ t.candidates q rest ∧ n = Text.bytes (rest.take k) := by
  have htakes : r.pattern.matchAt? text offset = some n ↔
      ∃ k, r.pattern.matchLength? rest = some k ∧ n = Text.bytes (rest.take k) := by
    rw [Pattern.matchAt?, hrest, Option.bind_some, Option.map_eq_some_iff]
    simp only [eq_comm (a := n)]
  constructor
  · rintro ⟨hplace, heligible, h⟩
    obtain ⟨k, hk, hn⟩ := htakes.1 h
    exact ⟨k, mem_candidates.2 ⟨mem_eligible.2 ⟨hplace, heligible⟩, hk⟩, hn⟩
  · rintro ⟨k, hmem, hn⟩
    obtain ⟨he, hk⟩ := mem_candidates.1 hmem
    obtain ⟨hplace, heligible⟩ := mem_eligible.1 he
    exact ⟨hplace, heligible, htakes.2 ⟨k, hk, hn⟩⟩

theorem matchAt?_iff (hrest : text.dropBytes? offset = some rest) :
    t.matchAt? p q text offset = some ⟨i, n⟩ ↔
      ∃ m, t.choose? p q rest = some m ∧ m.index = i ∧ n = Text.bytes (rest.take m.length) := by
  rw [matchAt?, hrest, Option.bind_some, Option.map_eq_some_iff]
  simp only [Found.mk.injEq, eq_comm (a := n)]

/-- Behind an offset that is no place in the text nothing matches. -/
theorem not_takes (hrest : text.dropBytes? offset = none) : ¬t.Takes q text offset i r n := by
  intro h
  have hnone : r.pattern.matchAt? text offset = none := by rw [Pattern.matchAt?, hrest, Option.bind_none]
  rw [h.takes] at hnone
  cases hnone

theorem matchAt?_of_no_place (hrest : text.dropBytes? offset = none) : t.matchAt? p q text offset = none := by
  rw [matchAt?, hrest, Option.bind_none]

theorem length_le {m : Match} (hm : m ∈ t.candidates q rest) : m.length ≤ rest.length :=
  (Pattern.matchLength?_bounds (mem_candidates.1 hm).2).2

/-- **Something wins where something matches**, under either policy. -/
theorem matchAt?_isSome_iff :
    (t.matchAt? p q text offset).isSome = true ↔ ∃ i r n, t.Takes q text offset i r n := by
  cases hrest : text.dropBytes? offset with
  | none =>
    rw [matchAt?_of_no_place hrest]
    exact ⟨fun h => (by cases h), fun ⟨i, r, n, h⟩ => absurd h (not_takes hrest)⟩
  | some rest =>
    rw [matchAt?, hrest, Option.bind_some, Option.isSome_map]
    constructor
    · intro h
      obtain ⟨m, hm⟩ := Option.isSome_iff_exists.1 h
      exact ⟨m.index, m.rule, _, (takes_iff hrest).2 ⟨m.length, choose?_mem hm, rfl⟩⟩
    · rintro ⟨i, r, n, h⟩
      obtain ⟨k, hk, -⟩ := (takes_iff hrest).1 h
      rw [Option.isSome_iff_ne_none]
      intro hnone
      have hnot := choose?_eq_none_iff.1 hnone r (List.mem_of_getElem? h.place) h.eligible
      rw [(mem_candidates.1 hk).2] at hnot
      cases hnot

/-- **The first rule that matches**, with the bytes it takes itself. -/
theorem matchAt?_first_iff :
    t.matchAt? .first q text offset = some ⟨i, n⟩ ↔
      ∃ r, t.Takes q text offset i r n ∧ ∀ j s k, t.Takes q text offset j s k → i ≤ j := by
  cases hrest : text.dropBytes? offset with
  | none =>
    rw [matchAt?_of_no_place hrest]
    exact ⟨fun h => (by cases h), fun ⟨r, h, _⟩ => absurd h (not_takes hrest)⟩
  | some rest =>
    rw [matchAt?_iff hrest]
    constructor
    · rintro ⟨m, hm, rfl, rfl⟩
      obtain ⟨hmem, hle⟩ := choose?_first_iff.1 hm
      refine ⟨m.rule, (takes_iff hrest).2 ⟨m.length, hmem, rfl⟩, fun j s k h => ?_⟩
      obtain ⟨c, hc, -⟩ := (takes_iff hrest).1 h
      exact hle _ hc
    · rintro ⟨r, h, hle⟩
      obtain ⟨k, hk, rfl⟩ := (takes_iff hrest).1 h
      refine ⟨⟨i, r, k⟩, choose?_first_iff.2 ⟨hk, fun m hm => ?_⟩, rfl, rfl⟩
      exact hle m.index m.rule _ ((takes_iff hrest).2 ⟨m.length, hm, rfl⟩)

/-- **The rule that takes most**: the first literal among those that take as much, or the first of them if there is no
literal among them. -/
theorem matchAt?_longest_iff :
    t.matchAt? .longest q text offset = some ⟨i, n⟩ ↔
      ∃ r, t.Takes q text offset i r n ∧ (∀ j s k, t.Takes q text offset j s k → k ≤ n) ∧
        ((r.pattern.isLiteral = true ∧
            ∀ j s, t.Takes q text offset j s n → s.pattern.isLiteral = true → i ≤ j) ∨
          ∀ j s, t.Takes q text offset j s n → s.pattern.isLiteral = false ∧ i ≤ j) := by
  cases hrest : text.dropBytes? offset with
  | none =>
    rw [matchAt?_of_no_place hrest]
    exact ⟨fun h => (by cases h), fun ⟨r, h, _⟩ => absurd h (not_takes hrest)⟩
  | some rest =>
    rw [matchAt?_iff hrest]
    constructor
    · rintro ⟨m, hm, rfl, rfl⟩
      obtain ⟨hmem, hlength, htie⟩ := longest_wins_iff.1 hm
      -- who takes as many bytes takes as many characters
      have htied {j : Nat} {s : Rule} (h : t.Takes q text offset j s (Text.bytes (rest.take m.length))) :
          ⟨j, s, m.length⟩ ∈ t.candidates q rest := by
        obtain ⟨c, hc, hbytes⟩ := (takes_iff hrest).1 h
        obtain rfl := (Text.bytes_take_inj (length_le hmem) (length_le hc)).1 hbytes
        exact hc
      refine ⟨m.rule, (takes_iff hrest).2 ⟨m.length, hmem, rfl⟩, fun j s k h => ?_, ?_⟩
      · obtain ⟨c, hc, rfl⟩ := (takes_iff hrest).1 h
        exact (Text.bytes_take_le_iff (length_le hc) (length_le hmem)).2 (hlength _ hc)
      · rcases htie with ⟨hlit, hfirst⟩ | hfirst
        · exact .inl ⟨hlit, fun j s h hs => hfirst _ (htied h) rfl hs⟩
        · exact .inr fun j s h => hfirst _ (htied h) rfl
    · rintro ⟨r, h, hmost, htie⟩
      obtain ⟨k, hk, rfl⟩ := (takes_iff hrest).1 h
      have htied {m : Match} (hm : m ∈ t.candidates q rest) (heq : m.length = k) :
          t.Takes q text offset m.index m.rule (Text.bytes (rest.take k)) :=
        (takes_iff hrest).2 ⟨m.length, hm, by rw [heq]⟩
      refine ⟨⟨i, r, k⟩, longest_wins_iff.2 ⟨hk, fun m hm => ?_, ?_⟩, rfl, rfl⟩
      · have hle := hmost _ _ _ ((takes_iff hrest).2 ⟨m.length, hm, rfl⟩)
        exact (Text.bytes_take_le_iff (length_le hm) (length_le hk)).1 hle
      · rcases htie with ⟨hlit, hfirst⟩ | hfirst
        · exact .inl ⟨hlit, fun m hm heq hs => hfirst _ _ (htied hm heq) hs⟩
        · exact .inr fun m hm heq => hfirst _ _ (htied hm heq)

/-- **How rules resolve** in a state at an offset of a text.  Under either policy something wins exactly where a rule is
eligible and matches.  Under `longest` the winner takes as many bytes as any such rule, and of those that take as many it
is the first literal, or else the first.  Under `first` the winner is the first such rule, with the bytes it takes
itself, which are no more. -/
theorem rules_resolve (t : Table) (q : State) (text : Text) (offset : Nat) :
    (∀ p, (t.matchAt? p q text offset).isSome = true ↔ ∃ i r n, t.Takes q text offset i r n) ∧
    (∀ i n, t.matchAt? .longest q text offset = some ⟨i, n⟩ ↔
      ∃ r, t.Takes q text offset i r n ∧ (∀ j s k, t.Takes q text offset j s k → k ≤ n) ∧
        ((r.pattern.isLiteral = true ∧
            ∀ j s, t.Takes q text offset j s n → s.pattern.isLiteral = true → i ≤ j) ∨
          ∀ j s, t.Takes q text offset j s n → s.pattern.isLiteral = false ∧ i ≤ j)) ∧
    (∀ i n, t.matchAt? .first q text offset = some ⟨i, n⟩ ↔
      ∃ r, t.Takes q text offset i r n ∧ ∀ j s k, t.Takes q text offset j s k → i ≤ j) ∧
    ∀ f l, t.matchAt? .first q text offset = some f → t.matchAt? .longest q text offset = some l →
      f.bytes ≤ l.bytes := by
  refine ⟨fun p => matchAt?_isSome_iff, fun i n => matchAt?_longest_iff, fun i n => matchAt?_first_iff, ?_⟩
  intro f l hf hl
  obtain ⟨r, hr, -⟩ := matchAt?_first_iff.1 hf
  obtain ⟨-, -, hmost, -⟩ := matchAt?_longest_iff.1 hl
  exact hmost _ _ _ hr

end Table

/-- A recogniser between two literals, of which the second takes as much as it does. -/
def Sample.shifts : Table :=
  ((Builder.new "DEFAULT").addRules [
    .literal "less" "<" .punctuator, .scan "pair" (fun _ => some 2) .char,
    .literal "shift" "<<" .punctuator]).build.toOption.getD ⟨⟨0, "DEFAULT", false⟩, [], [], []⟩

/-- Behind a character of two bytes the recogniser and the second literal take two more, so the literal wins. -/
theorem Table.shift_resolves :
    let q : State := ⟨0, "DEFAULT", false⟩
    let text : Text := "é<<=".toList
    (∃ r, Sample.shifts.Takes q text 2 1 r 2) ∧ Sample.shifts.matchAt? .first q text 2 = some ⟨0, 1⟩ ∧
      Sample.shifts.matchAt? .longest q text 2 = some ⟨2, 2⟩ ∧ (⟨0, 1⟩ : Found).bytes ≤ (⟨2, 2⟩ : Found).bytes := by
  intro q text
  have hfirst : Sample.shifts.matchAt? .first q text 2 = some ⟨0, 1⟩ := by decide
  have hlongest : Sample.shifts.matchAt? .longest q text 2 = some ⟨2, 2⟩ := by decide
  refine ⟨⟨_, ⟨rfl, by decide, by decide⟩⟩, hfirst, hlongest, ?_⟩
  exact (rules_resolve Sample.shifts q text 2).2.2.2 _ _ hfirst hlongest

end ModalLexer
