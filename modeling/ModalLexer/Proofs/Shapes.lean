import ModalLexer.Proofs.Disambiguation
import ModalLexer.Proofs.Failing
import ModalLexer.Proofs.Movers
/-!
# Shapes — the stacks a grammar comes to

Which states may stand above which is decided by the rules that enter them, and by the scan that enters the state of
regular expressions from outside.  So the stacks of a grammar have a regular shape (`Grammar.Shape`), of which only the
one of ECMAScript is unbounded: templates and substitutions in turn.  No rule leaves the state at the bottom, and what is
scanned to its end ends there (`stack_keeps_shape`).
-/
namespace ModalLexer

open Scanner (Steps Tracked Skips Stops)

namespace Grammar

/-! ## The shapes -/

/-- Where a scan enters a state from outside. -/
def drives (g : Grammar) (driven : Bool) (q q' : State) : Prop :=
  driven = true ∧ g = .ecmascript ∧ (q = base ∨ q = Ecmascript.interpolation) ∧ q' = Ecmascript.regexp

/-- What may stand above code in ECMAScript.  Regular expressions are entered by a scan only. -/
def Ecmascript.tops (driven : Bool) : List (List State) :=
  [[], [template], [comment]] ++ if driven then [[regexp], [regexp, comment]] else []

/-- The stacks of a grammar, read from the bottom to the top. -/
def Shape (g : Grammar) (driven : Bool) (qs : List State) : Prop :=
  match g with
  | c => ∃ top ∈ [[], [comment c]], qs = base :: top
  | bnf => ∃ inner ∈ [[], [Bnf.action]], ∃ top ∈ [[], [comment bnf]], qs = base :: (inner ++ top)
  | ecmascript => ∃ n, ∃ top ∈ Ecmascript.tops driven,
      qs = base :: ((List.replicate n [Ecmascript.template, Ecmascript.interpolation]).flatten ++ top)

variable {g : Grammar} {t : Table} {driven : Bool} {q q' : State} {qs : List State} {us toks : List Token}
  {ws : List BracketWord} {tok : Token}

theorem drives_states (h : g.drives driven q q') : q' ∈ g.states := by
  obtain ⟨-, rfl, -, rfl⟩ := h
  decide

/-- The states that may be entered from a state, by a rule or from outside. -/
def above (g : Grammar) (driven : Bool) (q : State) : List State :=
  g.entered q ++ if driven = true ∧ g = .ecmascript ∧ (q = base ∨ q = Ecmascript.interpolation) then
    [Ecmascript.regexp] else []

/-- A stack on which each state may be entered from the one below, the innermost state first. -/
inductive Stacked (g : Grammar) (driven : Bool) : List State → Prop
  | bottom : Stacked g driven [base]
  | enter {q q' : State} {qs : List State} (h : Stacked g driven (q :: qs)) (ha : q' ∈ g.above driven q) :
      Stacked g driven (q' :: q :: qs)

theorem stacked_of_spine (ht : g.table = .ok t) (h : Spine t (g.drives driven) qs ws us) :
    Stacked g driven qs ∧ ∀ q ∈ qs, q ∈ g.states := by
  induction h with
  | bottom =>
    rw [initial_eq ht]
    refine ⟨.bottom, fun q hq => ?_⟩
    rw [List.mem_singleton.1 hq]
    cases g <;> decide
  | enter _ ho _ ih =>
    obtain ⟨hstacked, hmem⟩ := ih
    obtain ⟨hentered, hstate, -⟩ := mem_entered ht (hmem _ List.mem_cons_self) ho
    exact ⟨.enter hstacked (List.mem_append_left _ hentered), List.forall_mem_cons.2 ⟨hstate, hmem⟩⟩
  | drive _ hd _ ih =>
    obtain ⟨hstacked, hmem⟩ := ih
    refine ⟨.enter hstacked (List.mem_append_right _ ?_), List.forall_mem_cons.2 ⟨drives_states hd, hmem⟩⟩
    obtain ⟨hdriven, hg, hq, rfl⟩ := hd
    rw [if_pos ⟨hdriven, hg, hq⟩]
    exact List.mem_singleton_self _

theorem above_code (driven : Bool) (h : q = base ∨ q = Ecmascript.interpolation) :
    ecmascript.above driven q = [Ecmascript.template, Ecmascript.comment] ++ if driven then [Ecmascript.regexp] else [] := by
  rcases h with rfl | rfl <;> cases driven <;> decide

theorem above_comment (g : Grammar) (driven : Bool) : g.above driven (comment g) = [] := by
  cases g <;> cases driven <;> decide

/-- Substitutions and templates in turn, with the innermost substitution first. -/
def Ecmascript.nest : Nat → List State
  | 0 => [base]
  | n + 1 => interpolation :: template :: nest n

theorem Ecmascript.nest_reverse : ∀ n,
    (nest n).reverse = base :: (List.replicate n [template, interpolation]).flatten
  | 0 => rfl
  | n + 1 => by
    rw [nest, List.reverse_cons, List.reverse_cons, nest_reverse n, List.replicate_succ', List.flatten_append]
    simp

theorem Ecmascript.nest_head {n : Nat} (h : q :: qs = nest n) : q = base ∨ q = interpolation := by
  cases n with
  | zero => exact .inl (List.cons.inj h).1
  | succ n => exact .inr (List.cons.inj h).1

/-- **What stands above code is entered from there**, or from what stands there already. -/
theorem Stacked.ecmascript (h : Stacked .ecmascript driven qs) :
    ∃ n, ∃ top ∈ Ecmascript.tops driven, qs = top.reverse ++ Ecmascript.nest n := by
  induction h with
  | bottom => exact ⟨0, [], List.mem_cons_self, rfl⟩
  | @enter q q' qs _ ha ih =>
    obtain ⟨n, top, htop, hqs⟩ := ih
    unfold Ecmascript.tops at htop ⊢
    simp only [List.cons_append, List.nil_append, List.mem_cons] at htop
    rcases htop with rfl | rfl | rfl | htop
    · rw [above_code driven (Ecmascript.nest_head hqs)] at ha
      refine ⟨n, [q'], ?_, by rw [hqs]; rfl⟩
      simp only [List.cons_append, List.nil_append, List.mem_cons] at ha ⊢
      rcases ha with rfl | rfl | ha
      · simp
      · simp
      · cases driven with
        | false => cases ha
        | true => simp_all
    · obtain ⟨rfl, rfl⟩ := List.cons.inj hqs
      have habove : above .ecmascript driven Ecmascript.template = [Ecmascript.interpolation] := by
        cases driven <;> decide
      rw [habove, List.mem_singleton] at ha
      exact ⟨n + 1, [], by simp, by rw [ha]; rfl⟩
    · obtain ⟨rfl, rfl⟩ := List.cons.inj hqs
      have habove : above .ecmascript driven Ecmascript.comment = [] := above_comment .ecmascript driven
      rw [habove] at ha
      cases ha
    · cases driven with
      | false => cases htop
      | true =>
        simp only [if_true, List.mem_cons, List.not_mem_nil, or_false] at htop
        rcases htop with rfl | rfl
        · obtain ⟨rfl, rfl⟩ := List.cons.inj hqs
          have habove : above .ecmascript true Ecmascript.regexp = [Ecmascript.comment] := by decide
          rw [habove, List.mem_singleton] at ha
          exact ⟨n, [Ecmascript.regexp, Ecmascript.comment], by simp, by rw [ha]; rfl⟩
        · obtain ⟨rfl, rfl⟩ := List.cons.inj hqs
          have habove : above .ecmascript true Ecmascript.comment = [] := above_comment .ecmascript true
          rw [habove] at ha
          cases ha

theorem Stacked.bnf (h : Stacked .bnf driven qs) :
    ∃ inner ∈ [[], [Bnf.action]], ∃ top ∈ [[], [comment .bnf]], qs = top ++ inner ++ [base] := by
  induction h with
  | bottom => exact ⟨[], by simp, [], by simp, rfl⟩
  | @enter q q' qs _ ha ih =>
    obtain ⟨inner, hinner, top, htop, hqs⟩ := ih
    simp only [List.mem_cons, List.not_mem_nil, or_false] at hinner htop
    rcases htop with rfl | rfl
    · rcases hinner with rfl | rfl
      · obtain ⟨rfl, rfl⟩ := List.cons.inj hqs
        have habove : above .bnf driven base = [comment .bnf, Bnf.action, Bnf.action] := by cases driven <;> decide
        rw [habove] at ha
        simp only [List.mem_cons, List.not_mem_nil, or_false, or_self] at ha
        rcases ha with rfl | rfl
        · exact ⟨[], by simp, [comment .bnf], by simp, rfl⟩
        · exact ⟨[Bnf.action], by simp, [], by simp, rfl⟩
      · obtain ⟨rfl, rfl⟩ := List.cons.inj hqs
        have habove : above .bnf driven Bnf.action = [comment .bnf] := by cases driven <;> decide
        rw [habove, List.mem_singleton] at ha
        exact ⟨[Bnf.action], by simp, [comment .bnf], by simp, by rw [ha]; rfl⟩
    · obtain ⟨rfl, rfl⟩ := List.cons.inj hqs
      rw [above_comment] at ha
      cases ha

theorem Stacked.c (h : Stacked .c driven qs) : ∃ top ∈ [[], [comment .c]], qs = top ++ [base] := by
  induction h with
  | bottom => exact ⟨[], by simp, rfl⟩
  | @enter q q' qs _ ha ih =>
    obtain ⟨top, htop, hqs⟩ := ih
    simp only [List.mem_cons, List.not_mem_nil, or_false] at htop
    rcases htop with rfl | rfl
    · obtain ⟨rfl, rfl⟩ := List.cons.inj hqs
      have habove : above .c driven base = [comment .c] := by cases driven <;> decide
      rw [habove, List.mem_singleton] at ha
      exact ⟨[comment .c], by simp, by rw [ha]; rfl⟩
    · obtain ⟨rfl, rfl⟩ := List.cons.inj hqs
      rw [above_comment] at ha
      cases ha

/-- **The shape of a stack**, from the states that may be entered from one another. -/
theorem Stacked.shape (h : Stacked g driven qs) : g.Shape driven qs.reverse := by
  cases g with
  | ecmascript =>
    obtain ⟨n, top, htop, rfl⟩ := h.ecmascript
    refine ⟨n, top, htop, ?_⟩
    rw [List.reverse_append, List.reverse_reverse, Ecmascript.nest_reverse, List.cons_append]
  | bnf =>
    obtain ⟨inner, hinner, top, htop, rfl⟩ := h.bnf
    simp only [List.mem_cons, List.not_mem_nil, or_false] at hinner htop
    refine ⟨inner, by simpa using hinner, top, by simpa using htop, ?_⟩
    rcases hinner with rfl | rfl <;> rcases htop with rfl | rfl <;> rfl
  | c =>
    obtain ⟨top, htop, rfl⟩ := h.c
    simp only [List.mem_cons, List.not_mem_nil, or_false] at htop
    refine ⟨top, by simpa using htop, ?_⟩
    rcases htop with rfl | rfl <;> rfl

/-! ## Failures -/

/-- What a failure under a grammar is not: a bottom state left, an unknown state, or in C a bracket that does not fit. -/
def Harmless (g : Grammar) (e : ScanError) : Prop :=
  e.cause.kind ≠ .stateUnderflow ∧ e.cause.kind ≠ .unknownState ∧ (g = .c → e.cause.kind ≠ .balancerMismatch)

variable {p : Policy} {k k' : Scanner} {source : Text} {name : String}

theorem stacked (ht : g.table = .ok t) (h : Tracked t (g.drives driven) k ws toks) :
    Stacked g driven (k.stack.frames.map (·.state)) ∧ ∀ f ∈ k.stack.frames, f.state ∈ g.states := by
  obtain ⟨hstacked, hmem⟩ := stacked_of_spine ht h.spine
  exact ⟨hstacked, fun f hf => hmem _ (List.mem_map_of_mem hf)⟩

theorem shape (ht : g.table = .ok t) (h : Tracked t (g.drives driven) k ws toks) : g.Shape driven k.stack.states :=
  (stacked ht h).1.shape

theorem bottom_eq (ht : g.table = .ok t) (h : Tracked t (g.drives driven) k ws toks) (hd : k.stack.depth = 0) :
    k.stack.frames.map (·.state) = [base] := by
  have hstacked := (stacked ht h).1
  have hframes : k.stack.frames = [k.stack.top] := by rw [StateStack.frames, List.length_eq_zero_iff.1 hd]
  rw [hframes, List.map_singleton] at hstacked ⊢
  generalize hqs : [k.stack.top.state] = qs at hstacked
  cases hstacked with
  | bottom => rfl
  | enter => simp at hqs

theorem states_of_bottom (ht : g.table = .ok t) (h : Tracked t (g.drives driven) k ws toks) (hd : k.stack.depth = 0) :
    k.stack.states = [base] := by
  rw [StateStack.states, bottom_eq ht h hd]
  rfl

/-- **No failure is a matter of the stack.** -/
theorem step_harmless {e : ScanError} (ht : g.table = .ok t) (h : Tracked t (g.drives driven) k ws toks)
    (hs : k.step t p = .fail e k') : g.Harmless e := by
  have hmem := (stacked ht h).2 _ List.mem_cons_self
  rcases Scanner.step_fail hs with ⟨-, ⟨-, -, rfl⟩ | ⟨c, -, -, rfl⟩ | ⟨m, hm, ⟨-, rfl⟩ | ⟨-, hb⟩⟩⟩ |
    ⟨m, ends, records, hm, -, hb, hpop, hd, -, -⟩
  · simp [Harmless, Scanner.unterminated_kind k]
  · simp [Harmless, Cause.kind]
  · simp [Harmless, Cause.kind]
  · have hkind := Scanner.balance_error_kind hb
    refine ⟨by simp [hkind], by simp [hkind], ?_⟩
    rintro rfl
    have hq := (Scanner.balance_eq_error hb).1
    have hplain : ∀ q ∈ states .c, q.balanced = false := by decide
    rw [hplain _ hmem] at hq
    cases hq
  · -- the state at the bottom is not balanced, and no rule leaves it
    have htop : k.stack.top.state = base := (List.cons.inj (bottom_eq ht h hd)).1
    cases ends with
    | true =>
      obtain ⟨-, hq, -⟩ := Scanner.balance_ends hb
      rw [htop] at hq
      cases hq
    | false =>
      obtain ⟨hr, hq, -⟩ := Table.choose?_rule hm
      have hsuits := suits_rule ht hr hmem hq
      have hpop : m.rule.transition = .pop := hpop
      rw [htop, hpop] at hsuits
      have hstay : ∀ m ∈ g.movers, m.state = base → m.transition ≠ .pop := by cases g <;> decide
      exact absurd rfl (hstay _ (List.contains_iff_mem.1 hsuits) rfl)

/-! ## Turns of a scan -/

variable {skip : KindSet} {a b : Bool} {s s' s₁ s₂ : Session Unit}

theorem punctuator_state (ht : g.table = .ok t) (hq : k.stack.top.state ∈ g.states)
    (h : k.step t p = .token tok k') (hk : tok.kind = .punctuator) : k.stack.top.state ∈ g.punctuated := by
  obtain ⟨m, ends, records, hm, -, -, rfl, -⟩ := Scanner.step_token_iff.1 h
  cases ends with
  | true => cases hk
  | false =>
    obtain ⟨hr, hmask, -⟩ := Table.choose?_rule hm
    have hmakes : t.Makes k.stack.top.state m.rule.transition (k.token t m false) :=
      ⟨m.rule, Table.choose?_index hm, hmask, rfl, rfl⟩
    by_cases hstay : m.rule.transition = .stay
    · exact ((made ht hq hmakes).1 hstay).punctuator hk
    · obtain ⟨m', hm', -, -, -, hkind⟩ := (made ht hq hmakes).2 hstay
      exact absurd (hkind.symm.trans hk) (mover_kind g m' hm').2.1

/-- Where something visible comes next between two turns, the loop over hidden kinds has left the stack as it was. -/
theorem Between.stack_eq (hT : t.Separates Ecmascript.codeStates Ecmascript.comment Ecmascript.regexp)
    (hb : Between skip k.stack) (hsk : Skips t .longest k toks k')
    (hend : skip = .trivia ∧ Stops t .longest k' ∨ skip = .empty ∧ k' = k) {k₂ : Scanner}
    (h : k'.step t .longest = .token tok k₂) (hvis : tok.kind.isTrivia = false) : k'.stack = k.stack := by
  rcases hend with ⟨rfl, -⟩ | ⟨-, rfl⟩
  · obtain ⟨base, j, loc, hc, -, htrivia⟩ := hb
    rw [← htrivia rfl] at hc
    exact (stack_of_skips hT hc hsk h hvis).1
  · rfl

/-- **Preparing a turn keeps the phrases**: the state of regular expressions is entered above code only, since the slash
that comes next is a punctuator. -/
theorem prepare_tracked (ht : g.table = .ok t) (hskip : skip = .trivia ∨ skip = .empty)
    (h : Tracked t (g.drives true) k ws toks) (hb : g = .ecmascript → Between skip k.stack)
    (hp : prepare g a (quiet t source skip k) = .ok s₁) :
    ∃ k₁ ws₁, s₁ = quiet t source skip k₁ ∧ Tracked t (g.drives true) k₁ ws₁ toks := by
  by_cases hg : g = .ecmascript
  · subst hg
    have hT := Ecmascript.separates ht
    have hb := hb rfl
    obtain ⟨us, k', hsk, hreach, hend⟩ := exists_reaches t source k hskip
    rcases prepare_cases hT hreach hp with ⟨rfl, -⟩ | ⟨-, rfl, tok, k₂, hk', hslash⟩
    · exact ⟨k, ws, rfl, h⟩
    · have hpunct : tok.kind = .punctuator := (isSlash_iff.1 hslash).1
      have hvis : tok.kind.isTrivia = false := by rw [hpunct]; decide
      have hstack := hb.stack_eq hT hsk hend hk' hvis
      have hmem := (stacked ht h).2 _ List.mem_cons_self
      have hcode : k'.stack.top.state ∈ punctuated .ecmascript := by
        refine punctuator_state ht ?_ hk' hpunct
        rw [hstack]
        exact hmem
      rw [hstack] at hcode
      have hd : drives .ecmascript true k.stack.top.state Ecmascript.regexp :=
        ⟨rfl, rfl, by simpa [punctuated] using hcode, rfl⟩
      exact ⟨_, _, rfl, h.drive hd k.loc⟩
  · rw [prepare, if_neg fun hne => hg hne.1] at hp
    cases hp
    exact ⟨k, ws, rfl, h⟩

/-- What a call for a token does where nothing is observed. -/
theorem quiet_next (t : Table) (source : Text) (skip : KindSet) (k : Scanner) :
    ∃ us k', Steps t .longest k us k' ∧ (quiet t source skip k).visible us = [] ∧ (quiet t source skip k).next = match k'.step t .longest with
      | .finish k' => (.ok none, quiet t source skip k')
      | .fail e k' => (.error e, { quiet t source skip k' with failure := some e })
      | .token tok k' => (.ok (some tok), quiet t source skip k') := by
  obtain ⟨us, k', hsteps, hvis, -, hnext⟩ := Session.next_steps (s := quiet t source skip k) rfl
  exact ⟨us, k', hsteps, hvis, hnext⟩

/-- **A call for a token keeps the phrases.** -/
theorem next_tracked {D : State → State → Prop} (h : Tracked t D k ws toks)
    (hn : (quiet t source skip k).next = (.ok (some tok), s₂)) :
    ∃ us k₂ ws₂, s₂ = quiet t source skip k₂ ∧ Tracked t D k₂ ws₂ (toks ++ us) ∧ (skip = .empty → us = [tok]) := by
  obtain ⟨us, k', hsteps, hvis, hnext⟩ := quiet_next t source skip k
  rw [hn] at hnext
  cases hk : k'.step t .longest with
  | finish k₂ => rw [hk] at hnext; cases hnext
  | fail e k₂ => rw [hk] at hnext; cases hnext
  | token tok' k₂ =>
    rw [hk] at hnext
    cases hnext
    obtain ⟨ws₂, h₂⟩ := h.steps (hsteps.trans (.cons hk (.nil k₂)))
    refine ⟨us ++ [tok], k₂, ws₂, rfl, h₂, ?_⟩
    rintro rfl
    rw [Session.visible_of_empty rfl] at hvis
    rw [hvis, List.nil_append]

/-- **All turns keep the phrases.** -/
theorem Turns.tracked (ht : g.table = .ok t) (hskip : skip = .trivia ∨ skip = .empty) (h : Turns g a s us b s') :
    ∀ k ws toks, s = quiet t source skip k → Tracked t (g.drives true) k ws toks →
      (g = .ecmascript → Between skip k.stack) →
      ∃ k' ws' toks', s' = quiet t source skip k' ∧ Tracked t (g.drives true) k' ws' toks' ∧
        (g = .ecmascript → Between skip k'.stack) ∧ (skip = .empty → toks' = toks ++ us) := by
  induction h with
  | start a s => exact fun k ws toks hs h hb => ⟨k, ws, toks, hs, h, hb, fun _ => by rw [List.append_nil]⟩
  | @turn a b s s₁ s₂ s' tok us hp hn _ ih =>
    rintro k ws toks rfl h hb
    obtain ⟨k₁, ws₁, rfl, h₁⟩ := prepare_tracked ht hskip h hb hp
    obtain ⟨vs, k₂, ws₂, rfl, h₂, hvs⟩ := next_tracked h₁ hn
    have hb₂ (hg : g = .ecmascript) : Between skip k₂.stack := by
      subst hg
      obtain ⟨k₃, hk₃, hb₃, -⟩ := turn_keeps ht hskip (hb rfl) hp hn
      cases hk₃
      exact hb₃
    obtain ⟨k', ws', toks', hs', h', hb', htoks⟩ := ih k₂ ws₂ _ rfl h₂ hb₂
    refine ⟨k', ws', toks', hs', h', hb', fun hempty => ?_⟩
    rw [htoks hempty, hvs hempty, List.append_assoc]
    rfl

/-! ## The end of a scan -/

/-- How a scan stops: it cannot prepare the next turn, or there is no token in it. -/
inductive Stopped (g : Grammar) (a : Bool) (s : Session Unit) (toks : List Token) :
    Except ScanError (List Token) → Prop
  | unprepared {e : ScanError} (hp : prepare g a s = .error e) : Stopped g a s toks (.error e)
  | failed {s₁ : Session Unit} {e : ScanError} (hp : prepare g a s = .ok s₁) (hn : s₁.next.1 = .error e) :
      Stopped g a s toks (.error e)
  | finished {s₁ : Session Unit} (hp : prepare g a s = .ok s₁) (hn : s₁.next.1 = .ok none) :
      Stopped g a s toks (.ok toks)

/-- **Every scan is made of turns** and stops after them. -/
theorem exists_turns (g : Grammar) (a : Bool) (s : Session Unit) :
    ∃ toks b s', Turns g a s toks b s' ∧ Stopped g b s' toks (scanFrom g a s) := by
  rw [scanFrom_eq]
  cases hp : prepare g a s with
  | error e => exact ⟨[], a, s, .start a s, .unprepared hp⟩
  | ok s₁ =>
    simp only
    rw [turn]
    rcases hn : s₁.next with ⟨e | _ | tok, s₂⟩
    · exact ⟨[], a, s, .start a s, .failed hp (by rw [hn])⟩
    · exact ⟨[], a, s, .start a s, .finished hp (by rw [hn])⟩
    · have hlt : s₂.scanner.rest.length < s.scanner.rest.length := by
        rw [← prepare_rest hp]
        exact Session.next_shorter hn
      obtain ⟨toks, b, s', hturns, hstop⟩ := exists_turns g (operandAfter a tok) s₂
      refine ⟨tok :: toks, b, s', .turn hp hn hturns, ?_⟩
      simp only
      generalize scanFrom g (operandAfter a tok) s₂ = r at hstop ⊢
      cases hstop with
      | unprepared hp => exact .unprepared hp
      | failed hp hn => exact .failed hp hn
      | finished hp hn => exact .finished hp hn
termination_by s.scanner.rest.length

/-- What a call for a token fails with, and where it finds the end. -/
theorem next_ends (ht : g.table = .ok t) (h : Tracked t (g.drives driven) k ws toks) :
    (∀ e, (quiet t source skip k).next.1 = .error e → g.Harmless e) ∧
      ((quiet t source skip k).next.1 = .ok none → (quiet t source skip k).next.2.scanner.stack.states = [base]) := by
  obtain ⟨us, k', hsteps, -, hnext⟩ := quiet_next t source skip k
  obtain ⟨ws', h'⟩ := h.steps hsteps
  rw [hnext]
  cases hk : k'.step t .longest with
  | finish k₂ =>
    obtain ⟨-, hd, rfl⟩ := Scanner.step_finish_iff.1 hk
    have hbottom := states_of_bottom ht h' hd
    exact ⟨fun e he => (by cases he), fun _ => hbottom⟩
  | fail e k₂ =>
    refine ⟨fun e' he => ?_, fun hnone => by cases hnone⟩
    cases he
    exact step_harmless ht h' hk
  | token tok k₂ => exact ⟨fun e he => (by cases he), fun hnone => by cases hnone⟩

/-- A turn that cannot be prepared fails at what comes next. -/
theorem prepare_error {e : ScanError} (ht : g.table = .ok t) (hp : prepare g a (quiet t source skip k) = .error e) :
    (quiet t source skip k).next.1 = .error e := by
  have hpeek : (quiet t source skip k).peek = ((quiet t source skip k).next.1, quiet t source skip k) :=
    Prod.ext (Session.peek_answer _) (Session.peek_session _)
  unfold prepare at hp
  split at hp
  · rename_i hg
    rw [hpeek] at hp
    rcases hn : (quiet t source skip k).next.1 with e' | _ | tok <;> simp only [hn] at hp
    · cases hp
      rfl
    · cases hp
    · -- the state of regular expressions is declared
      rw [hg.1] at ht
      rw [pushState_regexp (Ecmascript.separates ht)] at hp
      split at hp <;> cases hp
  · cases hp

theorem exists_table (g : Grammar) : ∃ t, g.table = .ok t := by
  by_cases hg : g = ecmascript
  · subst hg
    obtain ⟨t, ht, -⟩ := Ecmascript.exists_table
    exact ⟨t, ht⟩
  · have hbuilt : ∀ g ∈ [c, bnf], (g.table.toOption.any fun _ => true) = true := by decide +kernel
    obtain ⟨t, ht, -⟩ := exists_ok_of_any (hbuilt g (by cases g <;> simp_all))
    exact ⟨t, ht⟩

theorem tokenize_eq (ht : g.table = .ok t) (source : Text) (name : String) :
    g.tokenize source name = match (quiet t source .trivia (.start t source name)).run with
      | (toks, none, _) => .ok toks
      | (_, some e, _) => .error (.syntaxError e) := by
  rw [tokenize, session_eq, ht]
  simp only [Session.tokens]
  rcases (quiet t source .trivia (.start t source name)).run with ⟨toks, _ | e, s⟩ <;> rfl

/-- **Steps that reach the end of a text** in the first state make its tokens. -/
theorem tokenize_of_steps (ht : g.table = .ok t) {source : Text} {name : String} {toks : List Token} {k : Scanner}
    (h : Steps t .longest (.start t source name) toks k) (hr : k.rest = []) (hd : k.stack.depth = 0)
    (hshown : ∀ tok ∈ toks, KindSet.trivia.contains tok.kind = false) : g.tokenize source name = .ok toks := by
  obtain ⟨s, hs, -, -, hf, hrun⟩ := Session.run_of_steps h (quiet t source .trivia (.start t source name)) rfl rfl rfl rfl
  obtain ⟨hnil, hnone⟩ := Session.run_of_end hf (by rw [hs, hr]) (by rw [hs, hd])
  have hend : s.run.2 = (none, s.run.2.2) := Prod.ext hnone rfl
  rw [hnil, List.append_nil, Session.visible_of_kinds hshown, hend] at hrun
  rw [tokenize_eq ht, hrun]

/-- **A run under a grammar** keeps the stack in shape up to its end, and leaves no state entered if it succeeds. -/
theorem run_keeps_shape (ht : g.table = .ok t) (source : Text) (name : String) (skip : KindSet) :
    let s := quiet t source skip (.start t source name)
    (∀ us k, Steps t .longest s.scanner us k → g.Shape false k.stack.states) ∧
      g.Shape false s.run.2.2.scanner.stack.states ∧
      (s.run.2.1 = none → s.run.2.2.scanner.stack.states = [base]) ∧ ∀ e, s.run.2.1 = some e → g.Harmless e := by
  intro s
  have hstart : Tracked t (g.drives false) (.start t source name) [[]] [] := .start ..
  refine ⟨fun us k hsteps => ?_, ?_⟩
  · obtain ⟨ws, h⟩ := hstart.steps hsteps
    exact shape ht h
  · obtain ⟨us, k, hsteps, -, hend⟩ := Session.run_steps s rfl
    obtain ⟨ws, h⟩ := hstart.steps hsteps
    have hshape := shape ht h
    cases hend with
    | finish hk he hscanner =>
      obtain ⟨-, hdepth, rfl⟩ := Scanner.step_finish_iff.1 hk
      have hbottom := states_of_bottom ht h hdepth
      rw [hscanner, he]
      exact ⟨hshape, fun _ => hbottom, fun e he => by cases he⟩
    | @fail e k' hk he hscanner =>
      have hstack : k'.stack = k.stack := by
        rcases Scanner.step_fail hk with ⟨rfl, -⟩ | ⟨m, ends, records, -, -, -, -, -, rfl, -⟩ <;> rfl
      rw [hscanner, he, hstack]
      refine ⟨hshape, fun hnone => (by cases hnone), fun e' he' => ?_⟩
      cases he'
      exact step_harmless ht h hk

theorem between_start (ht : g.table = .ok t) (hg : g = .ecmascript) :
    Between skip (Scanner.start t source name).stack := by
  subst hg
  refine between_code fun f hf => ?_
  rw [List.mem_singleton.1 hf]
  exact (Ecmascript.separates ht).initial

/-- **A scan under a grammar** keeps the stack in shape between its turns and within them, and leaves no state entered if
it succeeds. -/
theorem scan_keeps_shape (ht : g.table = .ok t) (source : Text) (name : String)
    (hskip : skip = .trivia ∨ skip = .empty) :
    let s := quiet t source skip (.start t source name)
    (∀ toks b s', Turns g false s toks b s' →
      (∀ us k, Steps t .longest s'.scanner us k → g.Shape true k.stack.states) ∧
      ∀ s₁, prepare g b s' = .ok s₁ → ∀ us k, Steps t .longest s₁.scanner us k → g.Shape true k.stack.states) ∧
    (∀ toks, scanFrom g false s = .ok toks → ∃ b s' s₁, Turns g false s toks b s' ∧ prepare g b s' = .ok s₁ ∧
      s₁.next.1 = .ok none ∧ s₁.next.2.scanner.stack.states = [base]) ∧
    ∀ e, scanFrom g false s = .error e → g.Harmless e := by
  intro s
  have htracked {toks : List Token} {b : Bool} {s' : Session Unit} (h : Turns g false s toks b s') :=
    h.tracked ht hskip _ _ _ rfl (.start t (g.drives true) source name) (between_start ht)
  refine ⟨fun toks b s' hturns => ?_, fun toks hscan => ?_, fun e hscan => ?_⟩
  · obtain ⟨k, ws, us, rfl, h, hb, -⟩ := htracked hturns
    refine ⟨fun vs k' hsteps => ?_, fun s₁ hp vs k' hsteps => ?_⟩
    · obtain ⟨ws', h'⟩ := h.steps hsteps
      exact shape ht h'
    · obtain ⟨k₁, ws₁, rfl, h₁⟩ := prepare_tracked ht hskip h hb hp
      obtain ⟨ws', h'⟩ := h₁.steps hsteps
      exact shape ht h'
  · obtain ⟨us, b, s', hturns, hstop⟩ := exists_turns g false s
    obtain ⟨k, ws, vs, rfl, h, hb, -⟩ := htracked hturns
    rw [hscan] at hstop
    cases hstop with
    | finished hp hn =>
      obtain ⟨k₁, ws₁, rfl, h₁⟩ := prepare_tracked ht hskip h hb hp
      exact ⟨b, _, _, hturns, hp, hn, (next_ends ht h₁).2 hn⟩
  · obtain ⟨us, b, s', hturns, hstop⟩ := exists_turns g false s
    obtain ⟨k, ws, vs, rfl, h, hb, -⟩ := htracked hturns
    rw [hscan] at hstop
    cases hstop with
    | unprepared hp => exact (next_ends ht h).1 e (prepare_error ht hp)
    | failed hp hn =>
      obtain ⟨k₁, ws₁, rfl, h₁⟩ := prepare_tracked ht hskip h hb hp
      exact (next_ends ht h₁).1 e hn

/-- **A scan that shows trivia and succeeds has taken a phrase** of the initial state. -/
theorem scan_phrase (ht : g.table = .ok t)
    (h : scanFrom g false (quiet t source .empty (.start t source name)) = .ok toks) :
    ∃ w, Phrase t (g.drives true) t.initial toks w := by
  obtain ⟨us, b, s', hturns, hstop⟩ := exists_turns g false (quiet t source .empty (.start t source name))
  obtain ⟨k, ws, vs, rfl, hk, hb, htoks⟩ := hturns.tracked ht (.inr rfl) _ _ _ rfl
    (.start t (g.drives true) source name) (between_start ht)
  rw [htoks rfl, List.nil_append] at hk
  rw [h] at hstop
  cases hstop with
  | finished hp hn =>
    obtain ⟨k₁, ws₁, rfl, h₁⟩ := prepare_tracked ht (.inr rfl) hk hb hp
    obtain ⟨hidden, k', hsteps, hvis, hnext⟩ := quiet_next t source .empty k₁
    obtain rfl : hidden = [] := by rwa [Session.visible_of_empty rfl] at hvis
    obtain ⟨ws', h'⟩ := h₁.steps hsteps
    rw [hnext] at hn
    cases hk' : k'.step t .longest with
    | token tok k₂ => simp [hk'] at hn
    | fail e k₂ => simp [hk'] at hn
    | finish k₂ =>
      obtain ⟨-, hd, -⟩ := Scanner.step_finish_iff.1 hk'
      obtain ⟨w, hw⟩ := h'.phrase hd
      rw [List.append_nil] at hw
      exact ⟨w, hw⟩

/-- **The stack keeps the shape of its grammar.**  Whatever the text, while it is tokenized and where that ends, and while
it is scanned, whether trivia are shown or not, the stack read from the bottom has the shape of the grammar: before a turn
and in it, and for a scan also when the state of regular expressions has been entered.  What succeeds ends with the
bottom state alone, and what fails is not refused for its stack. -/
theorem stack_keeps_shape (g : Grammar) (source : Text) (name : String) :
    ∃ s, g.session source name () = .ok s ∧
      ((∀ us k, Steps s.table .longest s.scanner us k → g.Shape false k.stack.states) ∧
        g.Shape false s.run.2.2.scanner.stack.states ∧
        (∀ toks, g.tokenize source name = .ok toks → s.run.2.2.scanner.stack.states = [base]) ∧
        ∀ e, g.tokenize source name = .error e → ∃ e', e = .syntaxError e' ∧ g.Harmless e') ∧
      ∀ all,
        let s₀ := if all then s.setSkip .empty else s
        (∀ toks b s', Turns g false s₀ toks b s' →
          (∀ us k, Steps s.table .longest s'.scanner us k → g.Shape true k.stack.states) ∧
          ∀ s₁, prepare g b s' = .ok s₁ →
            ∀ us k, Steps s.table .longest s₁.scanner us k → g.Shape true k.stack.states) ∧
        (∀ toks, g.scan source name all = .ok toks → ∃ b s' s₁, Turns g false s₀ toks b s' ∧
          prepare g b s' = .ok s₁ ∧ s₁.next.1 = .ok none ∧ s₁.next.2.scanner.stack.states = [base]) ∧
        ∀ e, g.scan source name all = .error e → ∃ e', e = .syntaxError e' ∧ g.Harmless e' := by
  obtain ⟨t, ht⟩ := exists_table g
  have hsession : g.session source name () = .ok (quiet t source .trivia (.start t source name)) := by
    rw [session_eq, ht]
  refine ⟨_, hsession, ?_, fun all => ?_⟩
  · obtain ⟨hsteps, hend, hok, herror⟩ := run_keeps_shape ht source name .trivia
    rw [tokenize_eq ht]
    generalize (quiet t source .trivia (.start t source name)).run = r at hend hok herror ⊢
    obtain ⟨toks, _ | e, s'⟩ := r
    · exact ⟨hsteps, hend, fun _ _ => hok rfl, fun e he => by cases he⟩
    · refine ⟨hsteps, hend, fun _ h => (by cases h), fun e' he => ?_⟩
      cases he
      exact ⟨e, rfl, herror e rfl⟩
  · have hskip : (if all then KindSet.empty else KindSet.trivia) = .trivia ∨
        (if all then KindSet.empty else KindSet.trivia) = .empty := by cases all <;> simp
    have hstart : (if all then (quiet t source .trivia (.start t source name)).setSkip .empty
        else quiet t source .trivia (.start t source name)) =
        quiet t source (if all then .empty else .trivia) (.start t source name) := by cases all <;> rfl
    rw [hstart, scan_eq, ht]
    obtain ⟨hturns, hok, herror⟩ := scan_keeps_shape ht source name hskip
    refine ⟨hturns, fun toks hscan => hok toks ?_, fun e hscan => ?_⟩
    · simp only at hscan
      split at hscan
      · rename_i h
        cases hscan
        exact h
      · cases hscan
    · simp only at hscan
      split at hscan
      · cases hscan
      · rename_i e' h
        cases hscan
        exact ⟨e', rfl, herror e' h⟩

/-- A regular expression in a substitution of a template.  Nothing is left of the three states entered for it, and before
each turn the stack is in shape. -/
theorem regexp_in_template :
    ∃ toks s b s' s₁, scan .ecmascript "`$\x7b/a/\x7d`".toList "t" true = .ok toks ∧
      toks.map (·.kind) =
        [.templateDelimiter, .interpolationStart, .regexp, .interpolationEnd, .templateDelimiter] ∧
      session .ecmascript "`$\x7b/a/\x7d`".toList "t" () = .ok s ∧
      Turns .ecmascript false (s.setSkip .empty) toks b s' ∧ prepare .ecmascript b s' = .ok s₁ ∧
      Shape .ecmascript true s₁.scanner.stack.states ∧ s₁.next.1 = .ok none ∧
      s₁.next.2.scanner.stack.states = [base] := by
  have hany : ((scan .ecmascript "`$\x7b/a/\x7d`".toList "t" true).toOption.any fun toks =>
      decide (toks.map (·.kind) =
        [.templateDelimiter, .interpolationStart, .regexp, .interpolationEnd, .templateDelimiter])) = true := by
    decide +kernel
  obtain ⟨s, hs, -, hscans⟩ := stack_keeps_shape .ecmascript "`$\x7b/a/\x7d`".toList "t"
  obtain ⟨hturns, hok, -⟩ := hscans true
  obtain ⟨toks, hscan, hkinds⟩ := exists_ok_of_any hany
  obtain ⟨b, s', s₁, h, hp, hn, hbottom⟩ := hok toks hscan
  have hshape := (hturns toks b s' h).2 s₁ hp [] s₁.scanner (.nil _)
  exact ⟨toks, s, b, s', s₁, hscan, of_decide_eq_true hkinds, hs, h, hp, hshape, hn, hbottom⟩

end Grammar
end ModalLexer
