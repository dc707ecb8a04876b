import ModalLexer.Proofs.Balancing
import ModalLexer.Proofs.Running
/-!
# Phrases — how tokens follow the stack

The tokens taken while a state is innermost, together with all that is taken above it before it is innermost again, are a
phrase of that state (`Phrase`): tokens that stay, and blocks, which are a phrase of another state between what enters it
and what leaves it.  Along the stack the tokens taken so far fall into one phrase for each entered state, each behind the
token that entered it (`Spine`).  Every step keeps that, together with the words and records of the states
(`Tracked.step`), so where no state is entered any more the tokens are one phrase of the initial state.

States may be entered from outside as well.  `D` says which, and above which others.
-/
namespace ModalLexer

/-- A brace that ends a balanced state, whatever its rule says. -/
structure Token.Ends (tok : Token) (q : State) : Prop where
  balanced : q.balanced = true
  kind : tok.kind = .interpolationEnd
  lexeme : tok.lexeme = ['\x7d']

/-- **How a state is left** whose brackets make the word `w`: by a rule, wherever the word may stop, or by a brace, and
then the word is complete. -/
inductive Table.Leaves (t : Table) (q : State) (w : BracketWord) (c : Token) : Prop
  | rule (h : t.Makes q .pop c) (hw : q.balanced = true → ∃ v, Nested (w ++ v))
  | brace (h : c.Ends q) (hw : Nested w)

/-- The tokens taken while a state is innermost and between, and the brackets taken while it is innermost. -/
inductive Phrase (t : Table) (D : State → State → Prop) : State → List Token → BracketWord → Prop
  | nil {q : State} : Phrase t D q [] []
  | stay {q : State} {tok : Token} {toks : List Token} {w : BracketWord} (h : t.Makes q .stay tok)
      (hs : Phrase t D q toks w) : Phrase t D q (tok :: toks) (tok.letters ++ w)
  | block {q q' : State} {o c : Token} {us toks : List Token} {v w : BracketWord} (ho : t.Makes q (.push q') o)
      (hi : Phrase t D q' us v) (hc : t.Leaves q' v c) (hs : Phrase t D q toks w) :
      Phrase t D q (o :: us ++ c :: toks) (o.letters ++ w)
  | driven {q q' : State} {c : Token} {us toks : List Token} {v w : BracketWord} (hd : D q q')
      (hi : Phrase t D q' us v) (hc : t.Leaves q' v c) (hs : Phrase t D q toks w) :
      Phrase t D q (us ++ c :: toks) w

/-- **The tokens taken so far, along the stack**, the innermost state first: the phrase of each state, with its word. -/
inductive Spine (t : Table) (D : State → State → Prop) : List State → List BracketWord → List Token → Prop
  | bottom {us : List Token} {w : BracketWord} (h : Phrase t D t.initial us w) : Spine t D [t.initial] [w] us
  | enter {q q' : State} {qs : List State} {w v : BracketWord} {ws : List BracketWord} {us vs : List Token} {o : Token}
      (h : Spine t D (q :: qs) (w :: ws) us) (ho : t.Makes q (.push q') o) (hi : Phrase t D q' vs v) :
      Spine t D (q' :: q :: qs) (v :: (w ++ o.letters) :: ws) (us ++ o :: vs)
  | drive {q q' : State} {qs : List State} {v : BracketWord} {ws : List BracketWord} {us vs : List Token}
      (h : Spine t D (q :: qs) ws us) (hd : D q q') (hi : Phrase t D q' vs v) :
      Spine t D (q' :: q :: qs) (v :: ws) (us ++ vs)

variable {t : Table} {D : State → State → Prop} {q q' : State} {qs : List State} {us vs toks : List Token}
  {w v : BracketWord} {ws : List BracketWord} {tok o c : Token}

namespace Phrase

theorem append (h : Phrase t D q us w) (h' : Phrase t D q vs v) : Phrase t D q (us ++ vs) (w ++ v) := by
  induction h with
  | nil => exact h'
  | stay h _ ih =>
    rw [List.append_assoc]
    exact .stay h (ih h')
  | block ho hi hc _ _ ih =>
    rw [List.append_assoc, List.append_assoc, List.cons_append]
    exact .block ho hi hc (ih h')
  | driven hd hi hc _ _ ih =>
    rw [List.append_assoc, List.cons_append]
    exact .driven hd hi hc (ih h')

theorem single (h : t.Makes q .stay tok) : Phrase t D q [tok] tok.letters := by
  have hs := Phrase.stay (D := D) h .nil
  rwa [List.append_nil] at hs

end Phrase

namespace Spine

open Scanner (note)

theorem append (h : Spine t D (q :: qs) (w :: ws) us) (h' : Phrase t D q vs v) :
    Spine t D (q :: qs) ((w ++ v) :: ws) (us ++ vs) := by
  cases h with
  | bottom h => exact .bottom (h.append h')
  | enter h ho hi =>
    rw [List.append_assoc, List.cons_append]
    exact .enter h ho (hi.append h')
  | drive h hd hi =>
    rw [List.append_assoc]
    exact .drive h hd (hi.append h')

/-- Every state has a word. -/
theorem exists_word (h : Spine t D (q :: qs) ws us) : ∃ w ws', ws = w :: ws' := by
  cases h <;> exact ⟨_, _, rfl⟩

theorem stay (h : Spine t D (q :: qs) ws us) (htok : t.Makes q .stay tok) :
    Spine t D (q :: qs) (note tok ws) (us ++ [tok]) := by
  obtain ⟨w, ws, rfl⟩ := h.exists_word
  exact h.append (.single htok)

theorem push (h : Spine t D (q :: qs) ws us) (ho : t.Makes q (.push q') o) :
    Spine t D (q' :: q :: qs) ([] :: note o ws) (us ++ [o]) := by
  obtain ⟨w, ws, rfl⟩ := h.exists_word
  exact .enter h ho .nil

/-- **A state that is left becomes a block** in the phrase of the state below. -/
theorem pop (h : Spine t D (q' :: q :: qs) (v :: ws) us) (hc : t.Leaves q' v c) :
    Spine t D (q :: qs) ws (us ++ [c]) := by
  cases h with
  | @enter _ _ _ w _ _ us vs o h ho hi =>
    have hblock := Phrase.block ho hi hc .nil
    rw [List.append_nil] at hblock
    rw [List.append_assoc, List.cons_append]
    exact h.append hblock
  | drive h hd hi =>
    obtain ⟨w, ws, rfl⟩ := h.exists_word
    have hblock := h.append (.driven hd hi hc .nil)
    rw [List.append_nil] at hblock
    rw [List.append_assoc]
    exact hblock

end Spine

namespace Scanner

open Brackets (isOpener isCloser)

variable {p : Policy} {k k' : Scanner} {records : List Brackets}

/-- **What ends a balanced state**: a brace that finds nothing open. -/
theorem balance_ends {kind : Kind} {lexeme : Text} (h : k.balance kind lexeme = .ok (true, records)) :
    lexeme = ['\x7d'] ∧ k.stack.top.state.balanced = true ∧ ∃ b bs, k.records = b :: bs ∧ b.opened = [] := by
  by_cases ho : kind = .punctuator ∧ (∃ c, lexeme = [c]) ∧ k.stack.top.state.balanced = true ∧ k.records ≠ []
  · obtain ⟨rfl, ⟨c, rfl⟩, hq, hne⟩ := ho
    obtain ⟨b, bs, hr⟩ := List.exists_cons_of_ne_nil hne
    rw [balance_eq_pass hq hr] at h
    unfold Brackets.pass at h
    by_cases hend : c = '\x7d' ∧ b.depth = 0
    · obtain ⟨rfl, hd⟩ := hend
      exact ⟨rfl, hq, b, bs, hr, List.length_eq_zero_iff.1 hd⟩
    · -- nothing else ends a state
      rw [if_neg hend] at h
      cases ho : isOpener c with
      | true => simp [ho, Except.map] at h
      | false =>
        cases hc : isCloser c with
        | false => simp [ho, hc, Except.map] at h
        | true =>
          simp only [ho, hc, Bool.not_true, Bool.false_eq_true, if_false] at h
          rcases hcl : b.close c with ⟨found, _ | o⟩ | b' <;> simp [hcl, Except.map] at h
  · rw [balance_of_other ho] at h
    cases h

/-- The innermost of the entered states above the bottom, if it is balanced, has the first record. -/
theorem Kept.innermost {f g : Frame} {fs : List Frame} {bs : List Brackets} (h : Kept (f :: g :: fs) (w :: ws) bs)
    (hf : f.state.balanced = true) : ∃ b bs', bs = b :: bs' ∧ Unmatched w b.opened.reverse := by
  cases h with
  | balanced _ hw _ => exact ⟨_, _, rfl, hw⟩
  | plain hf' _ =>
    rw [hf] at hf'
    cases hf'

/-- **Words, records and tokens** of a scanner that has taken `toks`. -/
structure Tracked (t : Table) (D : State → State → Prop) (k : Scanner) (ws : List BracketWord) (toks : List Token) :
    Prop where
  kept : Kept k.stack.frames ws k.records
  spine : Spine t D (k.stack.frames.map (·.state)) ws toks

namespace Tracked

theorem start (t : Table) (D : State → State → Prop) (source : Text) (name : String) :
    Tracked t D (.start t source name) [[]] [] := ⟨.bottom _ _, .bottom .nil⟩

/-- **A step keeps the phrases.** -/
theorem step (h : Tracked t D k ws toks) (hs : k.step t p = .token tok k') :
    ∃ ws', Tracked t D k' ws' (toks ++ [tok]) := by
  obtain ⟨m, ends, records, hm, -, hb, rfl, hmv⟩ := step_token_iff.1 hs
  refine ⟨_, hmv.kept (h.kept.note hb), ?_⟩
  have hspine := h.spine
  have hkept := h.kept
  obtain ⟨w, ws, rfl⟩ := hspine.exists_word
  cases ends with
  | false =>
    have hmakes : t.Makes k.stack.top.state m.rule.transition (k.token t m false) :=
      ⟨m.rule, Table.choose?_index hm, (Table.choose?_rule hm).2.1, rfl, rfl⟩
    rw [if_neg Bool.false_ne_true] at hmv ⊢
    generalize m.rule.transition = r at hmv hmakes ⊢
    cases hmv with
    | stay => exact hspine.stay hmakes
    | push q => exact hspine.push hmakes
    | pop hl =>
      obtain ⟨j, hj, rfl⟩ := leave_eq_ok.1 hl
      have hframes : k.stack.frames = k.stack.top :: j.frames := (StateStack.frames_of_pop? hj).2
      rw [hframes] at hspine hkept
      refine hspine.pop (.rule hmakes fun hq => ?_)
      obtain ⟨b, bs, -, hw⟩ := hkept.innermost hq
      exact hw.completes
  | true =>
    obtain ⟨hlexeme, hq, b, bs, hr, hopen⟩ := balance_ends hb
    rw [if_pos rfl] at hmv ⊢
    cases hmv with
    | pop hl =>
      obtain ⟨j, hj, rfl⟩ := leave_eq_ok.1 hl
      have hframes : k.stack.frames = k.stack.top :: j.frames := (StateStack.frames_of_pop? hj).2
      rw [hframes] at hspine hkept
      refine hspine.pop (.brace ⟨hq, rfl, hlexeme⟩ ?_)
      obtain ⟨b', bs', hr', hw⟩ := hkept.innermost hq
      obtain ⟨rfl, -⟩ := List.cons.inj (hr.symm.trans hr')
      rw [hopen] at hw
      cases hw with
      | nested hw => exact hw

theorem steps (h : Tracked t D k ws toks) (hs : Steps t p k us k') : ∃ ws', Tracked t D k' ws' (toks ++ us) := by
  induction hs generalizing ws toks with
  | nil => exact ⟨ws, by rwa [List.append_nil]⟩
  | cons hstep _ ih =>
    obtain ⟨ws₁, h₁⟩ := h.step hstep
    obtain ⟨ws₂, h₂⟩ := ih h₁
    exact ⟨ws₂, by rwa [List.append_assoc] at h₂⟩

/-- **A state entered from outside** keeps the phrases. -/
theorem drive (h : Tracked t D k ws toks) (hd : D k.stack.top.state q) (loc : Location) :
    Tracked t D (k.enter q loc) ([] :: ws) toks := by
  have hspine := Spine.drive h.spine hd .nil
  rw [List.append_nil] at hspine
  have hmv : Moves loc (.push q) k (k.enter q loc) := .push q k
  exact ⟨hmv.kept h.kept, hspine⟩

/-- **Where no state is entered**, the tokens are one phrase. -/
theorem phrase (h : Tracked t D k ws toks) (hd : k.stack.depth = 0) : ∃ w, Phrase t D t.initial toks w := by
  have hspine := h.spine
  have hframes : k.stack.frames = [k.stack.top] := by rw [StateStack.frames, List.length_eq_zero_iff.1 hd]
  rw [hframes] at hspine
  generalize hqs : [k.stack.top].map (·.state) = qs at hspine
  cases hspine with
  | bottom h => exact ⟨_, h⟩
  | enter => simp at hqs
  | drive => simp at hqs

end Tracked
end Scanner

/-- **A run that succeeds has taken a phrase** of the initial state, and hands out what is not hidden of it. -/
theorem Session.run_phrase {σ : Type} {s : Session σ} {source : Text} {name : String}
    (hs : s.scanner = .start s.table source name) (hf : s.failure = none) (hr : s.run.2.1 = none)
    (D : State → State → Prop) :
    ∃ us w, Phrase s.table D s.table.initial us w ∧ s.run.1 = s.visible us := by
  obtain ⟨us, k, hsteps, hvis, hend⟩ := run_steps s hf
  rw [hs] at hsteps
  obtain ⟨ws, h⟩ := (Scanner.Tracked.start s.table D source name).steps hsteps
  cases hend with
  | finish hk =>
    obtain ⟨-, hd, -⟩ := Scanner.step_finish_iff.1 hk
    obtain ⟨w, hw⟩ := h.phrase hd
    exact ⟨us, w, hw, hvis⟩
  | fail _ he =>
    rw [hr] at he
    cases he

end ModalLexer
