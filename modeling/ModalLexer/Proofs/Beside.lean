import ModalLexer.Proofs.Separation
/-!
# Beside — trivia with and without a state beneath them

Two scanners at one place, of which one has entered the state of regular expressions and the other still stands among
code, step over the same trivia (`Beside.step`, `Skips.beside`).  Both may be inside a comment meanwhile.  Behind the
trivia comes either something that is not the business of the state, or a slash; then what the state makes of it does
not depend on where it was entered (`regexp_step`).
-/
namespace ModalLexer

theorem Grammar.isSlash_iff {tok : Token} :
    isSlash tok = true ↔ tok.kind = .punctuator ∧ (tok.lexeme = ['/'] ∨ tok.lexeme = ['/', '=']) := by
  rw [isSlash, Bool.and_eq_true, Bool.or_eq_true, beq_iff_eq, beq_iff_eq, beq_iff_eq]

namespace Table

theorem classify_isTrivia (t : Table) (r : Rule) (lexeme : Text) :
    (t.classify r lexeme).isTrivia = r.kind.isTrivia := by
  unfold classify
  split
  · rename_i h
    rw [h.1]
    decide
  · rfl

theorem classify_eq_punctuator {t : Table} {r : Rule} {lexeme : Text} (h : t.classify r lexeme = .punctuator) :
    r.kind = .punctuator := by
  unfold classify at h
  split at h
  · cases h
  · exact h

/-- Where trivia or a punctuator win among code, all trivia before a regular expression are eligible. -/
theorem Separates.eligible {t : Table} {code : List State} {comment regexp q : State} {p : Policy} {rest : Text}
    {m : Match} {r : Rule} (hT : t.Separates code comment regexp) (hq : q ∈ code)
    (hm : t.choose? p q rest = some m) (hk : m.rule.kind.isTrivia = true ∨ m.rule.kind = .punctuator)
    (hr : r ∈ t.rules) (hreg : r.mask.contains regexp = true) (htrivia : r.kind.isTrivia = true) :
    r.mask.contains q = true := by
  obtain ⟨hr₀, hq₀, -⟩ := choose?_rule hm
  have hosted : t.hosts q = true := by
    rw [hosts, List.any_eq_true]
    refine ⟨m.rule, hr₀, ?_⟩
    rcases hk with hk | hk
    · rw [hq₀, hk]; rfl
    · rw [hq₀, hk]; rfl
  exact hT.shared q hq hosted r hr hreg htrivia

end Table

/-- A token apart from the state it was made in. -/
def Token.cut (tok : Token) : Token := { tok with state := "" }

namespace Scanner

variable {t : Table} {p : Policy} {s s' : Scanner} {tok : Token}

/-- **All that a step does which makes trivia.** -/
theorem step_trivia_iff :
    (s.step t p = .token tok s' ∧ tok.kind.isTrivia = true) ↔
      ∃ m, t.choose? p s.stack.top.state s.rest = some m ∧ m.rule.unterminated = false ∧ m.rule.kind.isTrivia = true ∧
        tok = s.token t m false ∧ Moves s.loc m.rule.transition (s.skipChars m.length) s' := by
  have passes (m : Match) (hk : m.rule.kind.isTrivia = true) :
      s.balance (s.kindOf t m) (s.lexeme m) = .ok (false, s.records) := by
    refine balance_of_other fun ho => ?_
    rw [Table.classify_eq_punctuator ho.1] at hk
    exact absurd hk (by decide)
  constructor
  · rintro ⟨hs, hk⟩
    obtain ⟨m, ends, records, hm, hu, hb, rfl, hmv⟩ := step_token_iff.1 hs
    have hends : ends = false := by
      cases ends with
      | false => rfl
      | true => exact absurd (show Kind.interpolationEnd.isTrivia = true from hk) (by decide)
    subst hends
    have hrule : m.rule.kind.isTrivia = true := (t.classify_isTrivia m.rule _).symm.trans hk
    rw [passes m hrule] at hb
    cases hb
    exact ⟨m, hm, hu, hrule, rfl, hmv⟩
  · rintro ⟨m, hm, hu, hk, rfl, hmv⟩
    exact ⟨step_token_iff.2 ⟨m, false, s.records, hm, hu, passes m hk, rfl, hmv⟩,
      (t.classify_isTrivia m.rule _).trans hk⟩

/-! ## Stepping over trivia -/

/-- Trivia that steps make in turn. -/
inductive Skips (t : Table) (p : Policy) : Scanner → List Token → Scanner → Prop
  | nil (s : Scanner) : Skips t p s [] s
  | cons {s s₁ s₂ : Scanner} {tok : Token} {toks : List Token} (h : s.step t p = .token tok s₁)
      (hk : tok.kind.isTrivia = true) (hs : Skips t p s₁ toks s₂) : Skips t p s (tok :: toks) s₂

/-- The next step makes no trivia. -/
def Stops (t : Table) (p : Policy) (s : Scanner) : Prop :=
  ∀ tok s', s.step t p = .token tok s' → tok.kind.isTrivia = false

/-- **Trivia come to an end.** -/
theorem exists_skips (t : Table) (p : Policy) : ∀ (n : Nat) (s : Scanner), s.rest.length < n →
    ∃ toks s', Skips t p s toks s' ∧ Stops t p s'
  | n + 1, s, hn => by
    by_cases h : Stops t p s
    · exact ⟨[], s, .nil s, h⟩
    · obtain ⟨tok, h⟩ := Classical.not_forall.1 h
      obtain ⟨s₁, h⟩ := Classical.not_forall.1 h
      obtain ⟨hs, hk⟩ := Classical.not_imp.1 h
      have := step_token_shorter hs
      obtain ⟨toks, s₂, hsk, hst⟩ := exists_skips t p n s₁ (by omega)
      exact ⟨tok :: toks, s₂, .cons hs (Bool.not_eq_false _ ▸ hk) hsk, hst⟩

theorem Skips.length_le {toks : List Token} (h : Skips t p s toks s') : s'.rest.length ≤ s.rest.length := by
  induction h with
  | nil => exact Nat.le_refl _
  | cons h _ _ ih => exact Nat.le_of_lt (Nat.lt_of_le_of_lt ih (step_token_shorter h))

/-! ## Two stacks beside each other -/

/-- Two stacks that grow from `k` by trivia, the second from the state of regular expressions above it. -/
inductive Beside (comment regexp : State) (loc : Location) (k : StateStack) : StateStack → StateStack → Prop
  | code : Beside comment regexp loc k k (k.push regexp loc)
  | comment (l : Location) : Beside comment regexp loc k (k.push comment l) ((k.push regexp loc).push comment l)

variable {code : List State} {comment regexp : State} {loc : Location} {k j : StateStack} {toks : List Token}

/-- Before a regular expression the same trivia win as among code, for what rules them out as regular expressions does
so wherever they match. -/
theorem choose?_regexp {m : Match} (hT : t.Separates code comment regexp) (hk : k.top.state ∈ code) {rest : Text}
    (hm : t.choose? .longest k.top.state rest = some m) (hkind : m.rule.kind.isTrivia = true) :
    t.choose? .longest regexp rest = some m ∧ (m.rule.transition = .stay ∨ m.rule.transition = .push comment) := by
  obtain ⟨hr, hq, hlen⟩ := Table.choose?_rule hm
  have hcode := hT.inCode m.rule hr _ hk hq
  rw [Rule.suitsCode, if_pos hkind, Bool.and_eq_true, Bool.or_eq_true, beq_iff_eq, beq_iff_eq] at hcode
  refine ⟨Table.choose?_of_shared hm hcode.1 fun r hr' hreg hsome => ?_, hcode.2⟩
  cases hrk : r.kind.isTrivia with
  | true => exact hT.eligible hk hm (.inl hkind) hr' hreg hrk
  | false =>
    obtain ⟨n, hn⟩ := Option.isSome_iff_exists.1 hsome
    have hbody := hT.inRegexp r hr' hreg
    rw [Rule.suitsRegexp, if_neg (by rw [hrk]; exact Bool.false_ne_true), Bool.and_eq_true] at hbody
    obtain ⟨u, rfl, hu⟩ := Pattern.opensRegexp_sound hbody.2 hn
    have hblank := hT.inRegexp m.rule hr hcode.1
    rw [Rule.suitsRegexp, if_pos hkind, Bool.or_eq_true] at hblank
    rcases hblank with hb | hb
    · exact absurd rfl (Pattern.avoidsSlash_sound hb hlen)
    · obtain ⟨-, d, v, hd, hdc⟩ := Pattern.opensComment_sound hb hlen
      obtain ⟨h1, h2⟩ := hu d v (List.cons.inj hd).2
      rcases hdc with rfl | rfl
      · exact absurd rfl h1
      · exact absurd rfl h2

/-- **A step over trivia is the same on both stacks.** -/
theorem Beside.step (hT : t.Separates code comment regexp) (hk : k.top.state ∈ code)
    (hb : Beside comment regexp loc k s.stack j) (h : s.step t .longest = .token tok s')
    (hkind : tok.kind.isTrivia = true) :
    ∃ tok' j', { s with stack := j }.step t .longest = .token tok' { s' with stack := j' } ∧
      tok'.kind.isTrivia = true ∧ tok'.cut = tok.cut ∧ Beside comment regexp loc k s'.stack j' := by
  obtain ⟨m, hm, hu, hrk, rfl, hmv⟩ := step_trivia_iff.1 ⟨h, hkind⟩
  generalize hs : s.stack = i at hb hm
  have same {j' : StateStack} (hm' : t.choose? .longest j.top.state s.rest = some m)
      (hmv' : Moves s.loc m.rule.transition ({ s with stack := j }.skipChars m.length) { s' with stack := j' }) :
      { s with stack := j }.step t .longest = .token ({ s with stack := j }.token t m false) { s' with stack := j' } :=
    (step_trivia_iff.2 ⟨m, hm', hu, hrk, rfl, hmv'⟩).1
  cases hb with
  | code =>
    obtain ⟨hreg, htr | htr⟩ := choose?_regexp hT hk hm hrk
    · rw [htr] at hmv same
      cases hmv
      refine ⟨_, k.push regexp loc, same hreg (.stay _), hkind, rfl, ?_⟩
      rw [show (s.skipChars m.length).stack = k from hs]
      exact .code
    · rw [htr] at hmv same
      cases hmv
      refine ⟨_, (k.push regexp loc).push comment s.loc, same hreg (.push comment _), hkind, rfl, ?_⟩
      rw [show ((s.skipChars m.length).enter comment s.loc).stack = k.push comment s.loc from hs ▸ rfl]
      exact .comment s.loc
  | comment l =>
    obtain ⟨hr, hq, -⟩ := Table.choose?_rule hm
    have hin := hT.inComment m.rule hr hq
    rw [Rule.suitsComment, Bool.and_eq_true, Bool.or_eq_true, beq_iff_eq, beq_iff_eq] at hin
    rcases hin.2 with htr | htr
    · rw [htr] at hmv same
      cases hmv
      refine ⟨_, _, same hm (.stay _), hkind, rfl, ?_⟩
      rw [show (s.skipChars m.length).stack = k.push comment l from hs]
      exact .comment l
    · rw [htr] at hmv same
      cases hmv with
      | pop hl =>
        obtain ⟨k', hk', rfl⟩ := leave_eq_ok.1 hl
        rw [show (s.skipChars m.length).stack = k.push comment l from hs, StateStack.pop?_push] at hk'
        cases hk'
        exact ⟨_, k.push regexp loc, same hm (.pop (leave_eq_ok.2 ⟨_, rfl, rfl⟩)), hkind, rfl, .code⟩

/-- **Trivia are the same on both stacks.** -/
theorem Skips.beside (hT : t.Separates code comment regexp) (hk : k.top.state ∈ code)
    (h : Skips t .longest s toks s') : ∀ {j : StateStack}, Beside comment regexp loc k s.stack j →
      ∃ toks' j', Skips t .longest { s with stack := j } toks' { s' with stack := j' } ∧
        toks'.map Token.cut = toks.map Token.cut ∧ Beside comment regexp loc k s'.stack j' := by
  induction h with
  | nil s => exact fun {j} hb => ⟨[], j, .nil _, rfl, hb⟩
  | cons hs hkind _ ih =>
    intro j hb
    obtain ⟨tok', j₁, hs', hkind', hcut, hb₁⟩ := hb.step hT hk hs hkind
    obtain ⟨toks', j₂, hsk, hcuts, hb₂⟩ := ih hb₁
    exact ⟨tok' :: toks', j₂, .cons hs' hkind' hsk, by rw [List.map_cons, List.map_cons, hcut, hcuts], hb₂⟩

/-! ## Behind the trivia -/

/-- Inside a comment there is nothing visible. -/
theorem Beside.visible (hT : t.Separates code comment regexp) (hb : Beside comment regexp loc k s.stack j)
    (h : s.step t p = .token tok s') (hkind : tok.kind.isTrivia = false) :
    s.stack = k ∧ j = k.push regexp loc := by
  generalize hs : s.stack = i at hb
  cases hb with
  | code => exact ⟨rfl, rfl⟩
  | comment l =>
    obtain ⟨m, ends, records, hm, hu, hbal, rfl, -⟩ := step_token_iff.1 h
    obtain ⟨hr, hq, -⟩ := Table.choose?_rule hm
    rw [hs] at hq
    have hin := hT.inComment m.rule hr hq
    rw [Rule.suitsComment, Bool.and_eq_true] at hin
    have hkindOf : (s.kindOf t m).isTrivia = true := (t.classify_isTrivia m.rule _).trans hin.1
    rw [balance_of_other fun ho => by rw [ho.1] at hkindOf; exact absurd hkindOf (by decide)] at hbal
    cases hbal
    exact absurd (hkindOf.symm.trans hkind) (by decide)

/-- All entered states are states of code. -/
def InCode (code : List State) (k : StateStack) : Prop := ∀ f ∈ k.frames, f.state ∈ code

/-- **What is visible among code leads to code.** -/
theorem InCode.step (hT : t.Separates code comment regexp) (hc : InCode code s.stack)
    (h : s.step t p = .token tok s') (hkind : tok.kind.isTrivia = false) : InCode code s'.stack := by
  obtain ⟨m, ends, records, hm, hu, hb, rfl, hmv⟩ := step_token_iff.1 h
  have stays : (if ends then .pop else m.rule.transition : Transition).staysIn code = true := by
    cases ends with
    | true => rfl
    | false =>
      obtain ⟨hr, hq, -⟩ := Table.choose?_rule hm
      have hcode := hT.inCode m.rule hr _ (hc _ List.mem_cons_self) hq
      have hrk : m.rule.kind.isTrivia = false := (t.classify_isTrivia m.rule _).symm.trans hkind
      rwa [Rule.suitsCode, if_neg (by rw [hrk]; exact Bool.false_ne_true)] at hcode
  generalize (if ends then .pop else m.rule.transition : Transition) = r at hmv stays
  cases hmv with
  | stay => exact hc
  | push q =>
    have hq : q ∈ code := by simpa [Transition.staysIn] using stays
    intro f hf
    rcases List.mem_cons.1 hf with rfl | hf
    · exact hq
    · exact hc f hf
  | pop hl =>
    obtain ⟨k', hk', rfl⟩ := leave_eq_ok.1 hl
    intro f hf
    refine hc f ?_
    rw [show s.stack.frames = _ from (StateStack.frames_of_pop? hk').2]
    exact List.mem_cons_of_mem _ hf

/-- Where a slash comes next among code, no trivia match before a regular expression: they would be longer than a slash
and would have won. -/
theorem no_trivia_at_slash (hT : t.Separates code comment regexp) (hk : s.stack.top.state ∈ code)
    (h : s.step t .longest = .token tok s') (hslash : Grammar.isSlash tok = true) {m : Match}
    (hm : t.choose? .longest regexp s.rest = some m) : m.rule.kind.isTrivia = false := by
  obtain ⟨hpunct, hlex⟩ := Grammar.isSlash_iff.1 hslash
  obtain ⟨-, -, -, htext, -⟩ := step_token_consumes h
  obtain ⟨m₀, ends, records, hm₀, -, -, rfl, -⟩ := step_token_iff.1 h
  have hkind₀ : m₀.rule.kind = .punctuator := by
    cases ends with
    | false => exact Table.classify_eq_punctuator hpunct
    | true => cases hpunct
  obtain ⟨hr, hreg, hlen⟩ := Table.choose?_rule hm
  refine Bool.eq_false_iff.2 fun hkind => ?_
  have hblank := hT.inRegexp m.rule hr hreg
  rw [Rule.suitsRegexp, if_pos hkind, Bool.or_eq_true] at hblank
  rcases hblank with hb | hb
  · refine Pattern.avoidsSlash_sound hb hlen ?_
    rcases hlex with hl | hl <;> rw [htext, hl] <;> rfl
  · obtain ⟨h2, d, u, hrest, hd⟩ := Pattern.opensComment_sound hb hlen
    rcases hlex with hl | hl
    · -- a single slash is shorter than the trivia, which are eligible among code as well
      have hq := hT.eligible hk hm₀ (.inr hkind₀) hr hreg hkind
      have hmem := (Table.mem_candidates.1 (Table.choose?_mem hm)).1
      have hcand : m ∈ t.candidates s.stack.top.state s.rest :=
        Table.mem_candidates.2 ⟨Table.mem_eligible.2 ⟨(Table.mem_eligible.1 hmem).1, hq⟩, hlen⟩
      have hle := Table.longest_length hm₀ hcand
      have hone : (s.rest.take m₀.length).length = 1 := congrArg List.length hl
      rw [List.length_take, hrest, List.length_cons, List.length_cons] at hone
      omega
    · rw [htext, hl] at hrest
      obtain ⟨-, hrest⟩ := List.cons.inj hrest
      obtain ⟨rfl, -⟩ := List.cons.inj hrest
      exact absurd hd (by decide)

theorem leave_push {q : State} (hq : q.balanced = false) (s : Scanner) (k : StateStack) (loc : Location) :
    { s with stack := k.push q loc }.leave = .ok (q, { s with stack := k }) := by
  rw [leave_eq_ok]
  exact ⟨k, StateStack.pop?_push k q loc, by simp [hq]⟩

/-- **At a slash the state of regular expressions makes a regular expression of it, or nothing**, and where the state
was entered makes no difference. -/
theorem regexp_step (hT : t.Separates code comment regexp) (hk : s.stack.top.state ∈ code)
    (h : s.step t .longest = .token tok s') (hslash : Grammar.isSlash tok = true) :
    (∃ e, ∀ loc, { s with stack := s.stack.push regexp loc }.step t .longest
        = .fail e { s with stack := s.stack.push regexp loc }) ∨
      ∃ tok' s'', (∀ loc, { s with stack := s.stack.push regexp loc }.step t .longest = .token tok' s'') ∧
        tok'.kind.isTrivia = false ∧ s''.stack = s.stack := by
  cases hm : t.choose? .longest regexp s.rest with
  | none =>
    obtain ⟨-, -, hne, hrest, -⟩ := step_token_consumes h
    obtain ⟨c, cs, hc⟩ : ∃ c cs, s.rest = c :: cs :=
      List.exists_cons_of_ne_nil (by rw [hrest]; exact List.append_ne_nil_of_left_ne_nil hne _)
    exact .inl ⟨⟨.unexpected c regexp.name, s.loc⟩,
      fun loc => step_of_no_match (s := { s with stack := s.stack.push regexp loc }) hc hm⟩
  | some m =>
    obtain ⟨hr, hreg, -⟩ := Table.choose?_rule hm
    have hkind := no_trivia_at_slash hT hk h hslash hm
    have hbody := hT.inRegexp m.rule hr hreg
    rw [Rule.suitsRegexp, if_neg (by rw [hkind]; exact Bool.false_ne_true), Bool.and_eq_true, Bool.and_eq_true,
      Bool.not_eq_true', beq_iff_eq] at hbody
    obtain ⟨⟨hu, htr⟩, -⟩ := hbody
    have hbal (loc : Location) (kind : Kind) (lexeme : Text) :
        { s with stack := s.stack.push regexp loc }.balance kind lexeme = .ok (false, s.records) :=
      balance_of_other fun ho => Bool.false_ne_true (hT.plain.symm.trans ho.2.2.1)
    have hmv (loc : Location) : Moves s.loc .pop ({ s with stack := s.stack.push regexp loc }.skipChars m.length)
        { s.skipChars m.length with stack := s.stack } :=
      .pop (leave_push hT.plain (s.skipChars m.length) s.stack loc)
    refine .inr ⟨⟨t.classify m.rule (s.lexeme m), m.index, s.lexeme m, (s.lexeme m).bytes, s.loc, regexp.name⟩,
      { s.skipChars m.length with stack := s.stack }, fun loc => ?_, (t.classify_isTrivia m.rule _).trans hkind, rfl⟩
    exact step_token_iff.2 ⟨m, false, s.records, hm, hu, hbal loc _ _, rfl, htr ▸ hmv loc⟩

end Scanner
end ModalLexer
