import ModalLexer.Proofs.Tiling
/-!
# Running — what comes of a whole session

Within a state the steps of the scanner are those of the rules that win there, up to a place where none wins or where
they are to stop (`Scanner.steps_until`).

A session that is run hands out tokens until the text ends or a step fails.  `tokens_eq` is the equation of a run for
one step of the scanner.  By it a run is known from the steps it begins with, whatever is hidden and whoever observes: its
tokens (`run_of_steps`), its error (`tokens_of_steps`), and the answers to single calls (`calls_of_steps`).  `run_steps`
goes the other way: whatever comes of a run, steps of the scanner lead there.
-/
namespace ModalLexer

/-- A token of a rule that is eligible in `q` and changes the stack by `r`. -/
def Table.Makes (t : Table) (q : State) (r : Transition) (tok : Token) : Prop :=
  ∃ rule, t.rules[tok.rule]? = some rule ∧ rule.mask.contains q = true ∧ rule.transition = r ∧
    tok.kind = t.classify rule tok.lexeme

namespace Scanner

variable {t : Table} {p : Policy} {s s₁ s₂ : Scanner} {toks : List Token}

theorem leave_depth {q : State} (h : s.leave = .ok (q, s₁)) : s.stack.depth = s₁.stack.depth + 1 := by
  obtain ⟨j, hpop, rfl⟩ := leave_eq_ok.1 h
  have hframes := congrArg List.length (StateStack.frames_of_pop? hpop).2
  exact Nat.succ.inj hframes

/-- **A step that enters a state** takes a match whose rule enters it. -/
theorem step_enters {k k' : Scanner} {tok : Token} (h : k.step t p = .token tok k')
    (hd : k'.stack.depth = k.stack.depth + 1) :
    ∃ m, t.choose? p k.stack.top.state k.rest = some m ∧ m.rule.transition = .push k'.stack.top.state ∧
      k'.stack.top.openedAt = tok.loc ∧ tok.lexeme = k.rest.take m.length := by
  obtain ⟨m, ends, records, hm, -, -, rfl, hmv⟩ := step_token_iff.1 h
  have hdepth : ({ k with records }.skipChars m.length).stack.depth = k.stack.depth := rfl
  cases ends with
  | true =>
    rw [if_pos rfl] at hmv
    cases hmv with
    | pop hl =>
      have := leave_depth hl
      omega
  | false =>
    rw [if_neg Bool.false_ne_true] at hmv
    generalize hr : m.rule.transition = r at hmv
    cases hmv with
    | stay => omega
    | push q => exact ⟨m, hm, hr, rfl, rfl⟩
    | pop hl =>
      have := leave_depth hl
      omega

/-- **A match that ends no state by its bracket** is taken, and the scanner moves as its rule says. -/
theorem step_moves {k k' : Scanner} {m : Match} (hm : t.choose? p k.stack.top.state k.rest = some m)
    (hu : m.rule.unterminated = false)
    (hb : k.stack.top.state.balanced = true → k.kindOf t m ≠ .punctuator)
    (hmv : Moves k.loc m.rule.transition (k.skipChars m.length) k') : k.step t p = .token (k.token t m false) k' := by
  have hbalance : k.balance (k.kindOf t m) (k.lexeme m) = .ok (false, k.records) :=
    balance_of_other fun ho => hb ho.2.2.1 ho.1
  refine step_token_iff.2 ⟨m, false, k.records, hm, hu, hbalance, rfl, ?_⟩
  rw [if_neg Bool.false_ne_true]
  exact hmv

theorem step_of_stay {k : Scanner} {m : Match} (hm : t.choose? p k.stack.top.state k.rest = some m)
    (hu : m.rule.unterminated = false) (hb : k.stack.top.state.balanced = true → k.kindOf t m ≠ .punctuator)
    (hs : m.rule.transition = .stay) : k.step t p = .token (k.token t m false) (k.skipChars m.length) :=
  step_moves hm hu hb (hs ▸ .stay _)

theorem step_stays {k : Scanner} {m : Match} (hq : k.stack.top.state.balanced = false)
    (hm : t.choose? p k.stack.top.state k.rest = some m) (hu : m.rule.unterminated = false)
    (hs : m.rule.transition = .stay) : k.step t p = .token (k.token t m false) (k.skipChars m.length) :=
  step_of_stay hm hu (fun hb => absurd (hq.symm.trans hb) Bool.false_ne_true) hs

/-- **A run within a state** comes to a place where it stops or where no rule matches, if each rule that matches before
stays in the state.  `I` is what the rules keep of the rest of the text, and `S` says where to stop. -/
theorem steps_until {q : State} {I S : Text → Prop} (hq : q.balanced = false)
    (hI : ∀ r m, I r → ¬S r → t.choose? p q r = some m →
      m.rule.unterminated = false ∧ m.rule.transition = .stay ∧ I (r.drop m.length)) :
    ∀ (n : Nat) (k : Scanner), k.rest.length < n → k.stack.top.state = q → I k.rest →
      ∃ toks k', Steps t p k toks k' ∧ k'.stack = k.stack ∧ k'.records = k.records ∧
        (∀ tok ∈ toks, t.Makes q .stay tok) ∧ I k'.rest ∧ (S k'.rest ∨ t.choose? p q k'.rest = none)
  | n + 1, k, hn, hk, hIk => by
    by_cases hstop : S k.rest
    · exact ⟨[], k, .nil k, rfl, rfl, by simp, hIk, .inl hstop⟩
    · cases hm : t.choose? p q k.rest with
      | none => exact ⟨[], k, .nil k, rfl, rfl, by simp, hIk, .inr hm⟩
      | some m =>
        obtain ⟨hu, hs, hrest⟩ := hI _ m hIk hstop hm
        have hb := Table.choose?_bounds hm
        have hstep := step_stays (k := k) (by rw [hk]; exact hq) (by rw [hk]; exact hm) hu hs
        have hmakes : t.Makes q .stay (k.token t m false) :=
          ⟨m.rule, Table.choose?_index hm, (Table.choose?_rule hm).2.1, hs, rfl⟩
        have hlt : (k.rest.drop m.length).length < n := by
          rw [List.length_drop]
          omega
        obtain ⟨toks, k', hsteps, hstack, hrecords, hall, hend⟩ :=
          steps_until hq hI n (k.skipChars m.length) hlt hk hrest
        exact ⟨_, k', .cons hstep hsteps, hstack, hrecords, List.forall_mem_cons.2 ⟨hmakes, hall⟩, hend⟩

/-- A run within a state that nothing stops comes to where no rule matches. -/
theorem steps_within {q : State} {I : Text → Prop} (hq : q.balanced = false)
    (hI : ∀ r m, I r → t.choose? p q r = some m →
      m.rule.unterminated = false ∧ m.rule.transition = .stay ∧ I (r.drop m.length))
    (n : Nat) (k : Scanner) (hn : k.rest.length < n) (hk : k.stack.top.state = q) (hIk : I k.rest) :
    ∃ toks u k', Steps t p k toks k' ∧ k'.stack = k.stack ∧ k.rest = u ++ k'.rest ∧ k'.loc = k.loc.advance u ∧
      I k'.rest ∧ t.choose? p q k'.rest = none := by
  obtain ⟨toks, k', hsteps, hstack, -, -, hIk', hend⟩ :=
    steps_until (S := fun _ => False) hq (fun r m hr _ hm => hI r m hr hm) n k hn hk hIk
  obtain ⟨happ, hloc⟩ := hsteps.spell
  exact ⟨toks, _, k', hsteps, hstack, happ, hloc, hIk', hend.resolve_left id⟩

/-- The error of a scan that gets stuck before `rest` in a state which was entered at `opening`: the end of the text is
blamed on the opening, and anything else on the next character. -/
def stuckError (name : String) (opening place : Location) : (rest : Text) → ScanError
  | [] => ⟨.unterminatedState name, opening⟩
  | c :: _ => ⟨.unexpected c name, place⟩

theorem step_stuck {k : Scanner} (hd : 0 < k.stack.depth) (hq : k.stack.top.state.balanced = false)
    (hm : t.choose? p k.stack.top.state k.rest = none) :
    k.step t p = .fail (stuckError k.stack.top.state.name k.stack.top.openedAt k.loc k.rest) k := by
  cases hr : k.rest with
  | nil =>
    rw [step_of_end hr, if_pos hd]
    simp [unterminated, stuckError, hq]
  | cons c cs =>
    rw [step_of_no_match hr hm]
    rfl

end Scanner

namespace Session

variable {σ : Type} {s : Session σ}

theorem runWithin_enough (m : Nat) : ∀ (n : Nat) (s : Session σ), s.scanner.rest.length < m →
    s.scanner.rest.length < n → s.runWithin m = s.runWithin n := by
  induction m with
  | zero => intro n s hm; omega
  | succ m ih =>
    intro n s hm hn
    obtain ⟨n, rfl⟩ := Nat.exists_eq_succ_of_ne_zero (Nat.ne_of_gt (Nat.zero_lt_of_lt hn))
    simp only [runWithin]
    rcases hs : s.next with ⟨_ | _ | tok, s₁⟩
    · rfl
    · rfl
    · have := next_shorter hs
      simp only
      rw [ih n s₁ (by omega) (by omega)]

/-- **A run without fuel.** -/
theorem run_eq (s : Session σ) :
    s.run = match s.next with
      | (.error e, s₁) => ([], some e, s₁)
      | (.ok none, s₁) => ([], none, s₁)
      | (.ok (some tok), s₁) => (tok :: s₁.run.1, s₁.run.2) := by
  rw [run, runWithin]
  rcases hs : s.next with ⟨_ | _ | tok, s₁⟩
  · rfl
  · rfl
  · have hshort := next_shorter hs
    simp only
    rw [run, runWithin_enough _ (s₁.scanner.rest.length + 1) s₁ hshort (Nat.lt_succ_self _)]

theorem tokens_eq_ok {toks : List Token} (h : s.tokens = .ok toks) : s.run.2.1 = none ∧ toks = s.run.1 := by
  unfold tokens at h
  rcases hr : s.run with ⟨us, _ | e, s₁⟩
  · rw [hr] at h
    cases h
    exact ⟨rfl, rfl⟩
  · rw [hr] at h
    cases h

/-- What a run comes to, without fuel. -/
theorem tokens_of_next (s : Session σ) :
    s.tokens = match s.next with
      | (.error e, _) => .error e
      | (.ok none, _) => .ok []
      | (.ok (some tok), s₁) => s₁.tokens.map (tok :: ·) := by
  unfold tokens
  rw [run_eq]
  rcases s.next with ⟨_ | _ | tok, s₁⟩
  · rfl
  · rfl
  · simp only
    rcases s₁.run with ⟨toks, _ | e, s₂⟩ <;> rfl

/-- **A run by steps of the scanner.** -/
theorem tokens_eq (hf : s.failure = none) :
    s.tokens = match s.step with
      | (.error e, _) => .error e
      | (.ok none, _) => .ok []
      | (.ok (some tok), s₁) =>
        if s.options.skip.contains tok.kind then s₁.tokens else (s₁.notify tok).tokens.map (tok :: ·) := by
  rw [tokens_of_next, next, hf, seek_eq]
  rcases hs : s.step with ⟨_ | _ | tok, s₁⟩
  · rfl
  · rfl
  · obtain ⟨-, hs₁⟩ := step_eq_token hs
    have ho : s₁.options = s.options := by rw [hs₁]
    have hf₁ : s₁.failure = none := by rw [hs₁]; exact hf
    simp only [ho]
    cases s.options.skip.contains tok.kind with
    | true =>
      -- what is hidden is stepped over by the same call
      rw [if_pos rfl, if_pos rfl, tokens_of_next s₁, next, hf₁]
    | false => rw [if_neg Bool.false_ne_true, if_neg Bool.false_ne_true]

/-- **A run fails as the steps that lead to the failure.** -/
theorem tokens_of_steps {t : Table} {p : Policy} {k k₁ k₂ : Scanner} {toks : List Token} {e : ScanError}
    (h : Scanner.Steps t p k toks k₁) (he : k₁.step t p = .fail e k₂) :
    ∀ s : Session σ, s.table = t → s.options.policy = p → s.scanner = k → s.failure = none → s.tokens = .error e := by
  induction h with
  | nil k =>
    intro s ht hp hk hf
    rw [tokens_eq hf, step, ht, hp, hk, he]
  | @cons k k' _ tok toks hstep _ ih =>
    intro s ht hp hk hf
    have hs : s.step = (.ok (some tok), { s with scanner := k' }) := by rw [step, ht, hp, hk, hstep]
    rw [tokens_eq hf, hs]
    simp only
    split
    · exact ih he _ ht hp rfl hf
    · have hnotified := ih he (notify { s with scanner := k' } tok) (by simpa using ht) (by simpa using hp) (by simp)
        (by simpa using hf)
      rw [hnotified]
      rfl

/-- **A run by its first step.** -/
theorem run_of_step {s₁ : Session σ} {tok : Token} (hf : s.failure = none) (hs : s.step = (.ok (some tok), s₁)) :
    s.run = if s.options.skip.contains tok.kind then s₁.run
      else (tok :: (s₁.notify tok).run.1, (s₁.notify tok).run.2) := by
  obtain ⟨-, hs₁⟩ := step_eq_token hs
  have ho : s₁.options = s.options := by rw [hs₁]
  have hf₁ : s₁.failure = none := by rw [hs₁]; exact hf
  rw [run_eq, next, hf, seek_eq, hs]
  simp only [ho]
  cases s.options.skip.contains tok.kind with
  | true =>
    -- what is hidden is stepped over by the same call
    rw [if_pos rfl, if_pos rfl, run_eq s₁, next, hf₁]
  | false => rw [if_neg Bool.false_ne_true, if_neg Bool.false_ne_true]

/-- **A run goes by steps**: the tokens of steps are handed out if they are not hidden, and then the run goes on where the
steps have led. -/
theorem run_of_steps {t : Table} {p : Policy} {k k' : Scanner} {toks : List Token} (h : Scanner.Steps t p k toks k') :
    ∀ s : Session σ, s.table = t → s.options.policy = p → s.scanner = k → s.failure = none →
      ∃ s' : Session σ, s'.scanner = k' ∧ s'.table = t ∧ s'.options = s.options ∧ s'.failure = none ∧
        s.run = (s.visible toks ++ s'.run.1, s'.run.2) := by
  induction h with
  | nil k =>
    intro s ht _ hk hf
    exact ⟨s, hk, ht, rfl, hf, rfl⟩
  | @cons k k₁ _ tok toks hstep _ ih =>
    intro s ht hp hk hf
    have hs : s.step = (.ok (some tok), { s with scanner := k₁ }) := by rw [step, ht, hp, hk, hstep]
    rw [run_of_step hf hs]
    cases hskip : s.options.skip.contains tok.kind with
    | true =>
      obtain ⟨s', hk', ht', ho', hf', hrun⟩ := ih { s with scanner := k₁ } ht hp rfl hf
      refine ⟨s', hk', ht', ho', hf', ?_⟩
      rw [if_pos rfl, hrun]
      simp [visible, hskip]
    | false =>
      obtain ⟨s', hk', ht', ho', hf', hrun⟩ := ih (notify { s with scanner := k₁ } tok) (by simpa using ht)
        (by simpa using hp) (by simp) (by simpa using hf)
      refine ⟨s', hk', ht', by simpa using ho', hf', ?_⟩
      rw [if_neg Bool.false_ne_true, hrun]
      simp [visible, hskip]

/-- A step that makes a token which is not hidden is a call for a token. -/
theorem next_of_token {k : Scanner} {tok : Token} (hf : s.failure = none)
    (hs : s.scanner.step s.table s.options.policy = .token tok k) (hshown : s.options.skip.contains tok.kind = false) :
    s.next = (.ok (some tok), notify { s with scanner := k } tok) := by
  have hstep : s.step = (.ok (some tok), { s with scanner := k }) := by rw [step, hs]
  have hseek : s.seek = (.ok (some tok), { s with scanner := k }) := by simp [seek_eq, hstep, hshown]
  unfold next
  simp only [hf, hseek]

/-- A call for a token fails as its first step does. -/
theorem next_of_fail {k : Scanner} {e : ScanError} (hf : s.failure = none)
    (hs : s.scanner.step s.table s.options.policy = .fail e k) :
    s.next = (.error e, { s with scanner := k, failure := some e }) := by
  have hstep : s.step = (.error e, { s with scanner := k }) := by rw [step, hs]
  have hseek : s.seek = (.error e, { s with scanner := k }) := by rw [seek_eq, hstep]
  unfold next
  simp only [hf, hseek]

/-- **Where nothing is hidden, calls hand out the tokens of steps.** -/
theorem calls_of_steps {t : Table} {p : Policy} {k k' : Scanner} {toks : List Token} (h : Scanner.Steps t p k toks k') :
    ∀ s : Session σ, s.table = t → s.options = ⟨.empty, p⟩ → s.scanner = k → s.failure = none →
      let r := s.calls (List.replicate toks.length .next)
      handedOut r.1 = toks ∧ r.2.scanner = k' := by
  induction h with
  | nil k =>
    intro s _ _ hk _
    exact ⟨rfl, hk⟩
  | @cons k k₁ _ tok toks hstep _ ih =>
    intro s ht ho hk hf
    have hs : s.scanner.step s.table s.options.policy = .token tok k₁ := by rw [ht, ho, hk, hstep]
    have hnext := next_of_token hf hs (by rw [ho]; exact KindSet.contains_empty _)
    obtain ⟨hout, hk'⟩ := ih (notify { s with scanner := k₁ } tok) (by simpa using ht) (by simpa using ho) (by simp)
      (by simpa using hf)
    rw [List.length_cons, List.replicate_succ, calls_cons, call, hnext]
    refine ⟨?_, hk'⟩
    show tok :: handedOut _ = tok :: toks
    rw [hout]

/-! ## The steps behind a run -/

/-- **The steps of a call for a token**: those of hidden tokens, and the step whose outcome is answered. -/
theorem next_steps (hf : s.failure = none) :
    ∃ us k, Scanner.Steps s.table s.options.policy s.scanner us k ∧ s.visible us = [] ∧
      (∀ tok k', k.step s.table s.options.policy = .token tok k' → s.options.skip.contains tok.kind = false) ∧
      s.next = match k.step s.table s.options.policy with
        | .finish k' => (.ok none, { s with scanner := k' })
        | .fail e k' => (.error e, { s with scanner := k', failure := some e })
        | .token tok k' => (.ok (some tok), notify { s with scanner := k' } tok) := by
  obtain ⟨us, k, hsteps, hvis, hshown, hseek⟩ := seek_steps s
  refine ⟨us, k, hsteps, hvis, hshown, ?_⟩
  rw [step] at hseek
  unfold next
  simp only [hf, hseek]
  cases k.step s.table s.options.policy <;> rfl

/-- How a run ends at a scanner: there the step finds the end of the text, or fails. -/
inductive EndsAt (s : Session σ) (k : Scanner) : Prop
  | finish {k' : Scanner} (h : k.step s.table s.options.policy = .finish k') (he : s.run.2.1 = none)
      (hk : s.run.2.2.scanner = k')
  | fail {e : ScanError} {k' : Scanner} (h : k.step s.table s.options.policy = .fail e k') (he : s.run.2.1 = some e)
      (hk : s.run.2.2.scanner = k')

/-- **The steps of a run**: the tokens it hands out are those of the steps that are not hidden. -/
theorem run_steps (s : Session σ) (hf : s.failure = none) :
    ∃ us k, Scanner.Steps s.table s.options.policy s.scanner us k ∧ s.run.1 = s.visible us ∧ s.EndsAt k := by
  obtain ⟨us, k, hsteps, hvis, hshown, hnext⟩ := next_steps hf
  have hrun := run_eq s
  cases hk : k.step s.table s.options.policy with
  | finish k' =>
    simp only [hk] at hnext
    simp only [hnext] at hrun
    exact ⟨us, k, hsteps, by rw [hrun, hvis], .finish hk (by rw [hrun]) (by rw [hrun])⟩
  | fail e k' =>
    simp only [hk] at hnext
    simp only [hnext] at hrun
    exact ⟨us, k, hsteps, by rw [hrun, hvis], .fail hk (by rw [hrun]) (by rw [hrun])⟩
  | token tok k' =>
    simp only [hk] at hnext
    simp only [hnext] at hrun
    have hlt : k'.rest.length < s.scanner.rest.length := by simpa using next_shorter hnext
    have htok := hshown tok k' hk
    obtain ⟨vs, k₁, hsteps₁, hvis₁, hend⟩ := run_steps (notify { s with scanner := k' } tok) (by simpa using hf)
    simp only [notify_table, notify_options, notify_scanner] at hsteps₁
    refine ⟨us ++ tok :: vs, k₁, hsteps.trans (.cons hk hsteps₁), ?_, ?_⟩
    · have hsame : s.visible vs = visible (notify { s with scanner := k' } tok) vs := by simp [visible]
      rw [hrun, hvis₁, ← hsame]
      unfold visible at hvis ⊢
      rw [List.filter_append, hvis, List.nil_append, List.filter_cons_of_pos (by simpa using htok)]
    · cases hend with
      | finish h he hk => exact .finish (by simpa using h) (by rw [hrun, he]) (by rw [hrun, hk])
      | fail h he hk => exact .fail (by simpa using h) (by rw [hrun, he]) (by rw [hrun, hk])
termination_by s.scanner.rest.length
decreasing_by simpa using hlt

theorem run_of_end (hf : s.failure = none) (hr : s.scanner.rest = []) (hd : s.scanner.stack.depth = 0) :
    s.run.1 = [] ∧ s.run.2.1 = none := by
  obtain ⟨us, k, hsteps, hrun, hend⟩ := run_steps s hf
  have hfinish : s.scanner.step s.table s.options.policy = .finish { s.scanner with finished := true } :=
    Scanner.step_finish_iff.2 ⟨hr, hd, rfl⟩
  cases hsteps with
  | cons h _ =>
    rw [hfinish] at h
    cases h
  | nil =>
    refine ⟨hrun, ?_⟩
    cases hend with
    | finish _ he _ => exact he
    | fail h _ _ =>
      rw [hfinish] at h
      cases h

theorem visible_of_kinds {toks : List Token} (h : ∀ tok ∈ toks, s.options.skip.contains tok.kind = false) :
    s.visible toks = toks :=
  List.filter_eq_self.2 fun tok htok => by rw [h tok htok, Bool.not_false]

end Session
end ModalLexer
