import ModalLexer.Scanner
/-!
# Step — what one step does

A match is never empty and never longer than the rest of the text (`Pattern.matchLength?_bounds`), so a step that makes
a token takes a piece of the text, its lexeme, and stands behind it (`step_token_consumes`).  `step_token_iff` says all
that such a step does, with the change of the stack as a relation (`Moves`), and `step_fail` the same of a step that
fails.
-/
namespace ModalLexer

namespace Text

/-- **A count of bytes that ends between two characters** counts the characters before that place. -/
theorem charsOfBytes?_eq_some : ∀ (n : Nat) (t : Text) (k : Nat), charsOfBytes? n t = some k →
    k ≤ t.length ∧ bytes (t.take k) = n
  | n, [], k, h => by
    unfold charsOfBytes? at h
    split at h
    · cases h; simp_all
    · cases h
  | n, c :: cs, k, h => by
    unfold charsOfBytes? at h
    split at h
    · cases h; simp_all
    · split at h
      · rename_i hc
        obtain ⟨j, hj, rfl⟩ := Option.map_eq_some_iff.1 h
        obtain ⟨h1, h2⟩ := charsOfBytes?_eq_some _ cs j hj
        refine ⟨by simpa using h1, ?_⟩
        rw [List.take_succ_cons, bytes_cons, h2]
        omega
      · cases h

theorem bytes_pos {t : Text} (h : t ≠ []) : 0 < bytes t := by
  cases t with
  | nil => exact absurd rfl h
  | cons c cs => have := c.utf8Size_pos; rw [bytes_cons]; omega

/-- **The place behind a prefix** is found from its bytes. -/
theorem charsOfBytes?_append : ∀ (s t : Text), charsOfBytes? (bytes s) (s ++ t) = some s.length
  | [], t => by cases t <;> simp [charsOfBytes?]
  | c :: cs, t => by
    have := c.utf8Size_pos
    rw [List.cons_append, charsOfBytes?, bytes_cons, if_neg (by omega), if_pos (by omega), Nat.add_sub_cancel_left,
      charsOfBytes?_append cs t]
    rfl

end Text

/-- **A match takes something, and nothing beyond the text.** -/
theorem Pattern.matchLength?_bounds {p : Pattern} {rest : Text} {n : Nat} (h : p.matchLength? rest = some n) :
    0 < n ∧ n ≤ rest.length := by
  cases p with
  | literal t =>
    simp only [matchLength?] at h
    split at h
    · rename_i ht
      rw [Bool.and_eq_true, List.isPrefixOf_iff_prefix] at ht
      cases h
      refine ⟨List.length_pos_iff.2 (by simpa using ht.1), ht.2.length_le⟩
    · cases h
  | regex w r =>
    simp only [matchLength?, Option.filter_eq_some_iff, decide_eq_true_eq] at h
    exact ⟨h.2, Regex.run_le_length rest [[r]] none n h.1⟩
  | scan f =>
    simp only [matchLength?] at h
    split at h
    · cases h
    · rename_i k hk
      split at h
      · cases h
      · rename_i hk0
        obtain ⟨h1, h2⟩ := Text.charsOfBytes?_eq_some k rest n h
        refine ⟨Nat.pos_of_ne_zero (fun hn => ?_), h1⟩
        rw [hn, List.take_zero, Text.bytes_nil] at h2
        exact hk0 h2.symm

namespace Table

theorem mem_candidates {t : Table} {q : State} {rest : Text} {m : Match} :
    m ∈ t.candidates q rest ↔
      (m.rule, m.index) ∈ t.eligible q ∧ m.rule.pattern.matchLength? rest = some m.length := by
  simp only [candidates, List.mem_filterMap, Option.map_eq_some_iff]
  constructor
  · rintro ⟨e, he, n, hn, rfl⟩
    exact ⟨he, hn⟩
  · rintro ⟨he, hn⟩
    exact ⟨_, he, _, hn, rfl⟩

theorem mem_eligible {t : Table} {q : State} {e : Rule × Nat} :
    e ∈ t.eligible q ↔ t.rules[e.2]? = some e.1 ∧ e.1.mask.contains q = true := by
  rw [eligible, List.mem_filter, List.mem_zipIdx_iff_getElem?]

theorem rule?_some {t : Table} {name : String} {i : Nat} {r : Rule} (h : t.rule? name = some (i, r)) :
    t.rules[i]? = some r ∧ r.name = name := by
  obtain ⟨e, he, hi⟩ := Option.map_eq_some_iff.1 h
  obtain ⟨rfl, rfl⟩ := Prod.mk.inj hi
  have hname := List.find?_some he
  exact ⟨List.mem_zipIdx_iff_getElem?.1 (List.mem_of_find?_eq_some he), by simpa using hname⟩

theorem exists_rule?_of_mem {t : Table} {r : Rule} (hr : r ∈ t.rules) : ∃ e, t.rule? r.name = some e := by
  obtain ⟨i, hi⟩ := List.mem_iff_getElem?.1 hr
  have hsome : (t.rules.zipIdx.find? (·.1.name == r.name)).isSome := by
    rw [List.find?_isSome]
    exact ⟨(r, i), List.mem_zipIdx_iff_getElem?.2 hi, BEq.rfl⟩
  rw [← Option.isSome_iff_exists, rule?, Option.isSome_map, hsome]

theorem foldl_better_mem : ∀ (ms : List Match) (m : Match),
    ms.foldl (fun best n => if better best n then n else best) m ∈ m :: ms
  | [], m => by simp
  | n :: ms, m => by
    rw [List.foldl_cons]
    rcases List.mem_cons.1 (foldl_better_mem ms (if better m n then n else m)) with h | h
    · rw [h]; split <;> simp
    · exact List.mem_cons_of_mem _ (List.mem_cons_of_mem _ h)

theorem choose?_mem {t : Table} {p : Policy} {q : State} {rest : Text} {m : Match} (h : t.choose? p q rest = some m) :
    m ∈ t.candidates q rest := by
  cases p with
  | first => exact List.mem_of_mem_head? (by simpa [choose?] using h)
  | longest =>
    simp only [choose?] at h
    cases hms : t.candidates q rest with
    | nil => rw [hms] at h; cases h
    | cons a as =>
      rw [hms, longest?, Option.some.injEq] at h
      rw [← h]
      exact foldl_better_mem as a

theorem choose?_rule {t : Table} {p : Policy} {q : State} {rest : Text} {m : Match} (h : t.choose? p q rest = some m) :
    m.rule ∈ t.rules ∧ m.rule.mask.contains q = true ∧ m.rule.pattern.matchLength? rest = some m.length := by
  obtain ⟨he, hl⟩ := mem_candidates.1 (choose?_mem h)
  obtain ⟨hr, hq⟩ := mem_eligible.1 he
  exact ⟨List.mem_of_getElem? hr, hq, hl⟩

theorem choose?_index {t : Table} {p : Policy} {q : State} {rest : Text} {m : Match} (h : t.choose? p q rest = some m) :
    t.rules[m.index]? = some m.rule :=
  (mem_eligible.1 (mem_candidates.1 (choose?_mem h)).1).1

/-- **No match wins where no eligible rule matches**, and only there. -/
theorem choose?_eq_none_iff {t : Table} {p : Policy} {q : State} {rest : Text} :
    t.choose? p q rest = none ↔ ∀ r ∈ t.rules, r.mask.contains q = true → r.pattern.matchLength? rest = none := by
  have hnil : t.choose? p q rest = none ↔ t.candidates q rest = [] := by
    unfold choose?
    cases t.candidates q rest <;> cases p <;> simp [longest?]
  rw [hnil, List.eq_nil_iff_forall_not_mem]
  constructor
  · intro h r hr hq
    obtain ⟨i, hi⟩ := List.getElem?_of_mem hr
    cases hm : r.pattern.matchLength? rest with
    | none => rfl
    | some n => exact absurd (mem_candidates.2 ⟨mem_eligible.2 ⟨hi, hq⟩, hm⟩) (h ⟨i, r, n⟩)
  · intro h m hm
    obtain ⟨he, hl⟩ := mem_candidates.1 hm
    obtain ⟨hr, hq⟩ := mem_eligible.1 he
    rw [h _ (List.mem_of_getElem? hr) hq] at hl
    cases hl

theorem choose?_bounds {t : Table} {p : Policy} {q : State} {rest : Text} {m : Match}
    (h : t.choose? p q rest = some m) : 0 < m.length ∧ m.length ≤ rest.length :=
  Pattern.matchLength?_bounds (mem_candidates.1 (choose?_mem h)).2

end Table

namespace Scanner

variable {t : Table} {p : Policy} {s s' : Scanner} {tok : Token}

/-! ## Changes of the stack -/

/-- The change of a scanner by a transition, a state being entered at `loc`. -/
inductive Moves (loc : Location) : Transition → Scanner → Scanner → Prop
  | stay (s : Scanner) : Moves loc .stay s s
  | push (q : State) (s : Scanner) : Moves loc (.push q) s (s.enter q loc)
  | pop {s s' : Scanner} {q : State} (h : s.leave = .ok (q, s')) : Moves loc .pop s s'

theorem leave_eq_ok {q : State} : s.leave = .ok (q, s') ↔
    ∃ k, s.stack.pop? = some (q, k) ∧
      s' = { s with stack := k, records := if q.balanced then s.records.tail else s.records } := by
  unfold leave
  cases h : s.stack.pop? with
  | none => simp
  | some r =>
    simp only [Except.ok.injEq, Option.some.injEq, Prod.ext_iff]
    constructor
    · rintro ⟨rfl, rfl⟩
      exact ⟨r.2, ⟨rfl, rfl⟩, rfl⟩
    · rintro ⟨k, ⟨rfl, rfl⟩, rfl⟩
      exact ⟨rfl, rfl⟩

theorem leave_eq_error {e : ScanError} :
    s.leave = .error e ↔ s.stack.depth = 0 ∧ e = ⟨.bottomPopped s.stack.top.state.name, s.loc⟩ := by
  rw [← StateStack.pop?_eq_none_iff]
  unfold leave
  cases h : s.stack.pop? with
  | none => simp [eq_comm]
  | some r => simp

theorem transit_eq_token {r : Transition} {tok' : Token} :
    s.transit r tok' = .token tok s' ↔ tok = tok' ∧ Moves tok'.loc r s s' := by
  constructor
  · intro h
    cases r with
    | stay => cases h; exact ⟨rfl, .stay _⟩
    | push q => cases h; exact ⟨rfl, .push q _⟩
    | pop =>
      simp only [transit] at h
      split at h
      · rename_i q s₁ hl
        cases h
        exact ⟨rfl, .pop hl⟩
      · cases h
  · rintro ⟨rfl, h⟩
    cases h with
    | stay => rfl
    | push q => rfl
    | pop hl => simp only [transit, hl]

theorem transit_eq_fail {r : Transition} {e : ScanError} :
    s.transit r tok = .fail e s' ↔
      r = .pop ∧ s.stack.depth = 0 ∧ s' = s ∧ e = ⟨.bottomPopped s.stack.top.state.name, s.loc⟩ := by
  cases r with
  | stay => simp [transit]
  | push q => simp [transit]
  | pop =>
    simp only [transit, true_and]
    cases hl : s.leave with
    | ok r =>
      have : s.stack.depth ≠ 0 := fun h0 => by
        have := leave_eq_error.2 ⟨h0, rfl⟩
        rw [hl] at this
        cases this
      simp [this]
    | error e' =>
      obtain ⟨h0, rfl⟩ := leave_eq_error.1 hl
      simp only [Outcome.fail.injEq, h0, true_and]
      constructor <;> rintro ⟨rfl, rfl⟩ <;> exact ⟨rfl, rfl⟩

theorem transit_ne_finish {r : Transition} : s.transit r tok ≠ .finish s' := by
  cases r with
  | stay => simp [transit]
  | push q => simp [transit]
  | pop => simp only [transit]; split <;> simp

theorem Moves.place {loc : Location} {r : Transition} (h : Moves loc r s s') :
    s'.rest = s.rest ∧ s'.loc = s.loc ∧ s'.finished = s.finished := by
  cases h with
  | stay => exact ⟨rfl, rfl, rfl⟩
  | push q => exact ⟨rfl, rfl, rfl⟩
  | pop hl =>
    obtain ⟨k, -, rfl⟩ := leave_eq_ok.1 hl
    exact ⟨rfl, rfl, rfl⟩

/-! ## The outcomes of a step -/

/-- Only punctuators of one character pass through a record, and only in a balanced state. -/
theorem balance_of_other {kind : Kind} {lexeme : Text}
    (h : ¬(kind = .punctuator ∧ (∃ c, lexeme = [c]) ∧ s.stack.top.state.balanced = true ∧ s.records ≠ [])) :
    s.balance kind lexeme = .ok (false, s.records) := by
  unfold balance
  split
  · rename_i hb hr
    exact absurd ⟨rfl, ⟨_, rfl⟩, hb, by rw [hr]; exact List.cons_ne_nil _ _⟩ h
  · rfl

theorem step_of_end (hr : s.rest = []) :
    s.step t p = if 0 < s.stack.depth then .fail s.unterminated s else .finish { s with finished := true } := by
  unfold step
  rw [hr]

theorem step_of_no_match {c : Char} {cs : Text} (hr : s.rest = c :: cs)
    (hm : t.choose? p s.stack.top.state s.rest = none) :
    s.step t p = .fail ⟨.unexpected c s.stack.top.state.name, s.loc⟩ s := by
  unfold step
  simp only [hm]
  rw [hr]

theorem step_of_match {m : Match} (hm : t.choose? p s.stack.top.state s.rest = some m) : s.step t p = s.take t m := by
  have hb := Table.choose?_bounds hm
  unfold step
  simp only [hm]
  cases hr : s.rest with
  | nil => rw [hr, List.length_nil] at hb; omega
  | cons c cs => rfl

theorem take_eq_token {m : Match} :
    s.take t m = .token tok s' ↔
      m.rule.unterminated = false ∧ ∃ ends records, s.balance (s.kindOf t m) (s.lexeme m) = .ok (ends, records) ∧
        tok = s.token t m ends ∧
        Moves s.loc (if ends then .pop else m.rule.transition) ({ s with records }.skipChars m.length) s' := by
  unfold take
  cases hu : m.rule.unterminated with
  | true => simp
  | false =>
    cases hb : s.balance (s.kindOf t m) (s.lexeme m) with
    | error e => simp
    | ok r =>
      simp only [Bool.false_eq_true, if_false, transit_eq_token, true_and, Except.ok.injEq]
      constructor
      · rintro ⟨htok, hmv⟩
        exact ⟨r.1, r.2, rfl, htok, hmv⟩
      · rintro ⟨ends, records, rfl, htok, hmv⟩
        exact ⟨htok, hmv⟩

/-- **All that a step does which makes a token**: the match that wins is not an unclosed form, its brackets balance, and
the scanner behind it moves as its rule says, or leaves the state that the token ends. -/
theorem step_token_iff :
    s.step t p = .token tok s' ↔
      ∃ m ends records, t.choose? p s.stack.top.state s.rest = some m ∧ m.rule.unterminated = false ∧
        s.balance (s.kindOf t m) (s.lexeme m) = .ok (ends, records) ∧ tok = s.token t m ends ∧
        Moves s.loc (if ends then .pop else m.rule.transition) ({ s with records }.skipChars m.length) s' := by
  cases hm : t.choose? p s.stack.top.state s.rest with
  | some m =>
    rw [step_of_match hm, take_eq_token]
    constructor
    · rintro ⟨hu, ends, records, h⟩
      exact ⟨m, ends, records, rfl, hu, h⟩
    · rintro ⟨m', ends, records, hm', hu, h⟩
      cases hm'
      exact ⟨hu, ends, records, h⟩
  | none =>
    cases hr : s.rest with
    | nil => rw [step_of_end hr]; split <;> simp
    | cons c cs => rw [step_of_no_match hr hm]; simp

/-- **A step that makes a token takes its lexeme**: the lexeme is the text between the places before and after. -/
theorem step_token_consumes (h : s.step t p = .token tok s') :
    tok.loc = s.loc ∧ tok.bytes = tok.lexeme.bytes ∧ tok.lexeme ≠ [] ∧ s.rest = tok.lexeme ++ s'.rest ∧
      s'.loc = s.loc.advance tok.lexeme ∧ s'.finished = s.finished := by
  obtain ⟨m, ends, records, hm, -, -, rfl, hmv⟩ := step_token_iff.1 h
  obtain ⟨hpos, hle⟩ := Table.choose?_bounds hm
  obtain ⟨hrest, hloc, hfin⟩ := hmv.place
  refine ⟨rfl, rfl, ?_, ?_, hloc, hfin⟩
  · intro hnil
    have := congrArg List.length hnil
    simp only [token, lexeme, List.length_take, List.length_nil] at this
    omega
  · rw [hrest]
    exact (List.take_append_drop m.length s.rest).symm

theorem step_token_shorter (h : s.step t p = .token tok s') : s'.rest.length < s.rest.length := by
  obtain ⟨-, -, hne, hrest, -, -⟩ := step_token_consumes h
  have := List.length_pos_iff.2 hne
  rw [hrest, List.length_append]
  omega

theorem take_ne_finish {m : Match} : s.take t m ≠ .finish s' := by
  unfold take
  split
  · simp
  · split
    · simp
    · exact transit_ne_finish

/-- **The end is reached** only behind the whole text and with no state entered. -/
theorem step_finish_iff :
    s.step t p = .finish s' ↔ s.rest = [] ∧ s.stack.depth = 0 ∧ s' = { s with finished := true } := by
  constructor
  · intro h
    cases hm : t.choose? p s.stack.top.state s.rest with
    | some m => rw [step_of_match hm] at h; exact absurd h take_ne_finish
    | none =>
      by_cases hr : s.rest = []
      · rw [step_of_end hr] at h
        split at h
        · cases h
        · rename_i hd
          cases h
          exact ⟨hr, Nat.eq_zero_of_not_pos hd, rfl⟩
      · obtain ⟨c, cs, hc⟩ := List.exists_cons_of_ne_nil hr
        rw [step_of_no_match hc hm] at h
        cases h
  · rintro ⟨hr, hd, rfl⟩
    rw [step_of_end hr, if_neg (by omega)]

/-- **How a step fails**: the text ends in an entered state, no rule matches, the match is an unclosed form, its bracket
does not balance, or it leaves the bottom state.  Only in the last case has the scanner moved. -/
theorem step_fail {e : ScanError} (h : s.step t p = .fail e s') :
    (s' = s ∧ ((s.rest = [] ∧ 0 < s.stack.depth ∧ e = s.unterminated) ∨
      (∃ c, s.rest.head? = some c ∧ t.choose? p s.stack.top.state s.rest = none ∧
        e = ⟨.unexpected c s.stack.top.state.name, s.loc⟩) ∨
      ∃ m, t.choose? p s.stack.top.state s.rest = some m ∧
        ((m.rule.unterminated = true ∧ e = ⟨.unterminatedRule m.rule.name, s.loc⟩) ∨
          (m.rule.unterminated = false ∧ s.balance (s.kindOf t m) (s.lexeme m) = .error e)))) ∨
    ∃ m ends records, t.choose? p s.stack.top.state s.rest = some m ∧ m.rule.unterminated = false ∧
      s.balance (s.kindOf t m) (s.lexeme m) = .ok (ends, records) ∧
      (if ends then .pop else m.rule.transition) = Transition.pop ∧ s.stack.depth = 0 ∧
      s' = { s with records }.skipChars m.length ∧ e = ⟨.bottomPopped s.stack.top.state.name, s'.loc⟩ := by
  cases hm : t.choose? p s.stack.top.state s.rest with
  | none =>
    cases hr : s.rest with
    | nil =>
      rw [step_of_end hr] at h
      split at h
      · rename_i hd
        cases h
        exact .inl ⟨rfl, .inl ⟨rfl, hd, rfl⟩⟩
      · cases h
    | cons c cs =>
      rw [step_of_no_match hr hm] at h
      cases h
      exact .inl ⟨rfl, .inr (.inl ⟨c, rfl, rfl, rfl⟩)⟩
  | some m =>
    rw [step_of_match hm, take] at h
    split at h
    · rename_i hu
      cases h
      exact .inl ⟨rfl, .inr (.inr ⟨m, rfl, .inl ⟨hu, rfl⟩⟩)⟩
    · rename_i hu
      have hu := Bool.eq_false_iff.2 hu
      cases hb : s.balance (s.kindOf t m) (s.lexeme m) with
      | error e' =>
        rw [hb] at h
        cases h
        exact .inl ⟨rfl, .inr (.inr ⟨m, rfl, .inr ⟨hu, hb⟩⟩)⟩
      | ok r =>
        rw [hb] at h
        obtain ⟨hpop, hd, rfl, rfl⟩ := transit_eq_fail.1 h
        exact .inr ⟨m, r.1, r.2, rfl, hu, hb, hpop, hd, rfl, rfl⟩

end Scanner
end ModalLexer
