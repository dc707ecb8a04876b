import ModalLexer.Proofs.Seek
/-!
# History — what happens to a scanner

The scanner of a session changes in four ways: it takes a match, a state is entered or left on demand, it comes to the
end of the text, or a step fails.  `Change` says what each does, `History` strings changes together with their events,
and `call_history` finds the history of any call: the tokens that the call hands out are those taken on the way that are
not hidden, and what failed on the way is kept as the failure of the session.  `Steps` are the histories in which nothing
but tokens is taken.
-/
namespace ModalLexer
namespace Scanner

inductive Event
  | took (tok : Token) (r : Transition)
  | drove (r : Transition)
  | ended
  | failed (e : ScanError)

/-- **All that can happen to a scanner at once.** -/
inductive Change (t : Table) (s : Scanner) : Event → Scanner → Prop
  | take {p : Policy} {m : Match} {ends : Bool} {records : List Brackets} {s' : Scanner}
      (hm : t.choose? p s.stack.top.state s.rest = some m) (hu : m.rule.unterminated = false)
      (hb : s.balance (s.kindOf t m) (s.lexeme m) = .ok (ends, records))
      (hmv : Moves s.loc (if ends then .pop else m.rule.transition) ({ s with records }.skipChars m.length) s') :
      Change t s (.took (s.token t m ends) (if ends then .pop else m.rule.transition)) s'
  | drive {r : Transition} {s' : Scanner} (h : Moves s.loc r s s') : Change t s (.drove r) s'
  | finish {p : Policy} {s' : Scanner} (h : s.step t p = .finish s') : Change t s .ended s'
  | fail {p : Policy} {e : ScanError} {s' : Scanner} (h : s.step t p = .fail e s') : Change t s (.failed e) s'

/-- The events that lead from one scanner to another, in turn. -/
inductive History (t : Table) (s : Scanner) : List Event → Scanner → Prop
  | start : History t s [] s
  | snoc {es : List Event} {e : Event} {s₁ s₂ : Scanner} (h : History t s es s₁) (hc : Change t s₁ e s₂) :
      History t s (es ++ [e]) s₂

def taken (es : List Event) : List Token :=
  es.filterMap fun
    | .took tok _ => some tok
    | _ => none

theorem taken_append (es fs : List Event) : taken (es ++ fs) = taken es ++ taken fs := List.filterMap_append

variable {t : Table} {s s₁ s₂ : Scanner} {p : Policy} {es fs : List Event}

theorem History.trans (h : History t s es s₁) (h' : History t s₁ fs s₂) : History t s (es ++ fs) s₂ := by
  induction h' with
  | start => rw [List.append_nil]; exact h
  | snoc _ hc ih => rw [← List.append_assoc]; exact .snoc ih hc

theorem Change.history {e : Event} (h : Change t s e s₁) : History t s [e] s₁ := .snoc .start h

/-- A step that makes a token is a match taken. -/
theorem change_of_step {tok : Token} (h : s.step t p = .token tok s₁) : ∃ r, Change t s (.took tok r) s₁ := by
  obtain ⟨m, ends, records, hm, hu, hb, rfl, hmv⟩ := step_token_iff.1 h
  exact ⟨_, .take hm hu hb hmv⟩

/-- Tokens that steps make in turn, hidden kinds included. -/
inductive Steps (t : Table) (p : Policy) : Scanner → List Token → Scanner → Prop
  | nil (s : Scanner) : Steps t p s [] s
  | cons {s s₁ s₂ : Scanner} {tok : Token} {toks : List Token} (h : s.step t p = .token tok s₁)
      (hs : Steps t p s₁ toks s₂) : Steps t p s (tok :: toks) s₂

theorem Steps.trans {toks us : List Token} (h : Steps t p s toks s₁) (h' : Steps t p s₁ us s₂) :
    Steps t p s (toks ++ us) s₂ := by
  induction h with
  | nil => exact h'
  | cons h _ ih => exact .cons h (ih h')

/-- Steps are a history of tokens taken. -/
theorem Steps.history {toks : List Token} (h : Steps t p s toks s₁) :
    ∃ es, History t s es s₁ ∧ taken es = toks ∧ ∀ e, Event.failed e ∉ es := by
  induction h with
  | nil s => exact ⟨[], .start, rfl, by simp⟩
  | @cons s s₁ s₂ tok toks hs _ ih =>
    obtain ⟨r, hc⟩ := change_of_step hs
    obtain ⟨es, hes, rfl, hfail⟩ := ih
    exact ⟨.took tok r :: es, hc.history.trans hes, rfl, by simpa using hfail⟩

end Scanner

open Scanner (Event History taken)

namespace Session

variable {σ : Type} {s : Session σ}

def visible (s : Session σ) (toks : List Token) : List Token :=
  toks.filter fun tok => !s.options.skip.contains tok.kind

/-- **The history of the loop**: of the tokens taken it answers the one that is not hidden. -/
theorem seekWithin_history : ∀ (n : Nat) (s : Session σ),
    ∃ es, History s.table s.scanner es (s.seekWithin n).2.scanner ∧
      s.visible (taken es) = (Reply.answer (s.seekWithin n).1).token?.toList ∧
      ∀ e, Event.failed e ∈ es → (s.seekWithin n).1 = .error e
  | 0, _ => ⟨[], .start, rfl, fun e he => by cases he⟩
  | n + 1, s => by
    rw [seekWithin_succ]
    unfold step
    cases hs : s.scanner.step s.table s.options.policy with
    | finish k => exact ⟨[.ended], (Scanner.Change.finish hs).history, rfl, fun e he => by simp at he⟩
    | fail e k =>
      refine ⟨[.failed e], (Scanner.Change.fail hs).history, rfl, fun e' he => ?_⟩
      simp only [List.mem_singleton, Event.failed.injEq] at he
      rw [he]
    | token tok k =>
      obtain ⟨r, hc⟩ := Scanner.change_of_step hs
      simp only
      split
      · rename_i hk
        -- a hidden token: the history of the later turns follows
        obtain ⟨es, hes, hvis, hfail⟩ := seekWithin_history n { s with scanner := k }
        refine ⟨.took tok r :: es, hc.history.trans hes, ?_, fun e he => hfail e (by simpa using he)⟩
        rw [← hvis]
        simp [visible, taken, hk]
      · rename_i hk
        refine ⟨[.took tok r], hc.history, ?_, fun e he => by simp at he⟩
        simp [visible, taken, Reply.token?, hk]

theorem seek_history (s : Session σ) :
    ∃ es, History s.table s.scanner es s.seek.2.scanner ∧ s.visible (taken es) = (Reply.answer s.seek.1).token?.toList ∧
      ∀ e, Event.failed e ∈ es → s.seek.1 = .error e :=
  seekWithin_history _ s

/-- **The last turn of the loop** is a step, behind tokens that are all hidden. -/
theorem seekWithin_steps (n : Nat) : ∀ s : Session σ, s.scanner.rest.length < n →
    ∃ us k, Scanner.Steps s.table s.options.policy s.scanner us k ∧ s.visible us = [] ∧
      (∀ tok k', k.step s.table s.options.policy = .token tok k' → s.options.skip.contains tok.kind = false) ∧
      s.seekWithin n = { s with scanner := k }.step := by
  induction n with
  | zero => intro s hn; omega
  | succ n ih =>
    intro s hn
    rw [seekWithin_succ]
    cases hk : s.scanner.step s.table s.options.policy with
    | finish k =>
      have hs : s.step = (.ok none, { s with scanner := k }) := by rw [step, hk]
      exact ⟨[], s.scanner, .nil _, rfl, by simp [hk], by simp [hs]⟩
    | fail e k =>
      have hs : s.step = (.error e, { s with scanner := k }) := by rw [step, hk]
      exact ⟨[], s.scanner, .nil _, rfl, by simp [hk], by simp [hs]⟩
    | token tok k =>
      have hs : s.step = (.ok (some tok), { s with scanner := k }) := by rw [step, hk]
      have hlt : k.rest.length < n := by
        have hshort := Scanner.step_token_shorter hk
        omega
      simp only [hs]
      cases hskip : s.options.skip.contains tok.kind with
      | true =>
        obtain ⟨us, k₁, hsteps, hvis, hshown, hseek⟩ := ih { s with scanner := k } hlt
        refine ⟨tok :: us, k₁, .cons hk hsteps, ?_, hshown, hseek⟩
        rw [← hvis]
        simp [visible, hskip]
      | false =>
        refine ⟨[], s.scanner, .nil _, rfl, ?_, hs.symm⟩
        intro tok' k' h
        rw [hk] at h
        cases h
        exact hskip

theorem seek_steps (s : Session σ) :
    ∃ us k, Scanner.Steps s.table s.options.policy s.scanner us k ∧ s.visible us = [] ∧
      (∀ tok k', k.step s.table s.options.policy = .token tok k' → s.options.skip.contains tok.kind = false) ∧
      s.seek = { s with scanner := k }.step :=
  seekWithin_steps _ s (Nat.lt_succ_self _)

theorem seek_reaches (s : Session σ) :
    ∃ es k, History s.table s.scanner es k ∧ (∀ e, Event.failed e ∉ es) ∧ s.visible (taken es) = [] ∧
      s.seek = { s with scanner := k }.step := by
  obtain ⟨us, k, hsteps, hvis, -, hseek⟩ := seek_steps s
  obtain ⟨es, hes, rfl, hfail⟩ := hsteps.history
  exact ⟨es, k, hes, hfail, hvis, hseek⟩

/-- What `next` makes of the loop: it changes neither the answer nor the scanner, and keeps an error. -/
theorem next_of_seek (hf : s.failure = none) :
    s.next.1 = s.seek.1 ∧ s.next.2.scanner = s.seek.2.scanner ∧
      ∀ e, s.seek.1 = .error e → s.next.2.failure = some e := by
  unfold next
  simp only [hf]
  rcases s.seek with ⟨_ | _ | tok, s₁⟩
  · exact ⟨rfl, rfl, fun e he => by cases he; rfl⟩
  · exact ⟨rfl, rfl, fun e he => by cases he⟩
  · exact ⟨rfl, notify_scanner s₁ tok, fun e he => by cases he⟩

theorem next_of_failure {e : ScanError} (hf : s.failure = some e) : s.next = (.error e, s) := by
  unfold next
  rw [hf]

theorem next_failure {s₁ : Session σ} {e : ScanError} (h : s.next = (.error e, s₁)) : s₁.failure = some e := by
  cases hf : s.failure with
  | some e' =>
    rw [next_of_failure hf] at h
    cases h
    exact hf
  | none =>
    have hn := (next_of_seek hf).2.2 e
    rw [← (next_of_seek hf).1, h] at hn
    exact hn rfl

/-- **The history of a call for a token.** -/
theorem next_history (s : Session σ) :
    ∃ es, History s.table s.scanner es s.next.2.scanner ∧ s.visible (taken es) = (Reply.answer s.next.1).token?.toList ∧
      ∀ e, Event.failed e ∈ es → s.next.2.failure = some e := by
  cases hf : s.failure with
  | some e =>
    rw [next_of_failure hf]
    exact ⟨[], .start, rfl, fun e he => by cases he⟩
  | none =>
    obtain ⟨es, hes, hvis, hfail⟩ := seek_history s
    obtain ⟨h1, h2, h3⟩ := next_of_seek hf
    rw [h1, h2]
    exact ⟨es, hes, hvis, fun e he => h3 e (hfail e he)⟩

theorem next_keeps (s : Session σ) :
    s.next.2.table = s.table ∧ s.next.2.options = s.options ∧ s.next.2.source = s.source := by
  cases hf : s.failure with
  | some e => rw [next_of_failure hf]; exact ⟨rfl, rfl, rfl⟩
  | none =>
    rcases next_cases hf with ⟨e, k, h⟩ | ⟨k, h⟩ | ⟨tok, k, h⟩ <;> rw [h]
    · exact ⟨rfl, rfl, rfl⟩
    · exact ⟨rfl, rfl, rfl⟩
    · exact ⟨notify_table _ tok, notify_options _ tok, notify_source _ tok⟩

theorem next_failure_none (hf : s.failure = none) (hn : (Reply.answer s.next.1).error? = none) :
    s.next.2.failure = none := by
  rcases next_cases hf with ⟨e, k, h⟩ | ⟨k, h⟩ | ⟨tok, k, h⟩ <;> rw [h] at hn ⊢
  · cases hn
  · exact hf
  · exact (notify_failure _ tok).trans hf

/-! ## Every call -/

/-- What an iteration makes of an answer. -/
def turned : Answer → Option (Except ScanError Token)
  | .ok tok => tok.map .ok
  | .error e => some (.error e)

theorem turned_token? : ∀ a : Answer, (Reply.turn (turned a)).token? = (Reply.answer a).token?
  | .ok none => rfl
  | .ok (some _) => rfl
  | .error _ => rfl

theorem turned_error? : ∀ a : Answer, (Reply.turn (turned a)).error? = (Reply.answer a).error?
  | .ok none => rfl
  | .ok (some _) => rfl
  | .error _ => rfl

theorem error?_eq_some {a : Answer} {e : ScanError} : (Reply.answer a).error? = some e ↔ a = .error e := by
  rcases a with _ | _ | tok <;> simp [Reply.error?]

theorem iterate_cases (s : Session σ) : s.iterate = (none, s) ∨ s.iterate = (turned s.next.1, s.next.2) := by
  unfold iterate
  split
  · exact .inl rfl
  · right
    rcases s.next with ⟨_ | _ | tok, s₁⟩ <;> rfl

theorem iterate_of_stopped (h : (s.paused || s.failure.isSome) = true) : s.iterate = (none, s) := by
  rw [iterate, h, if_pos rfl]

theorem iterate_of_running (h : (s.paused || s.failure.isSome) = false) :
    s.iterate = (turned s.next.1, s.next.2) := by
  rw [iterate, h, if_neg Bool.false_ne_true]
  rcases s.next with ⟨_ | _ | tok, s₁⟩ <;> rfl

/-- **All that a call can do** to a session: nothing but to change its options, its observer or its pause, or to look
ahead; to enter or leave a state; or to take the next token. -/
inductive Effect (s : Session σ) (c : Call σ) (r : Reply) (s' : Session σ) : Prop
  | still (hsc : s'.scanner = s.scanner) (ht : s'.table = s.table) (hf : s'.failure = s.failure)
      (hk : s'.options.skip = s.options.skip ∨ c = .setSkip s'.options.skip)
      (hr : c.isPeek = true ∨ r.token? = none)
  | drive (m : Transition) (k : Scanner) (hm : Scanner.Moves s.scanner.loc m s.scanner k)
      (hs : s' = { s with scanner := k }) (hr : r.token? = none)
  | next (hc : c.isPeek = false) (hs : s' = s.next.2) (hr : r.token? = (Reply.answer s.next.1).token?)
      (he : r.error? = (Reply.answer s.next.1).error?)

theorem call_effect (s : Session σ) (c : Call σ) : Effect s c (s.call c).1 (s.call c).2 := by
  cases c with
  | next => exact .next rfl rfl rfl rfl
  | peek => rw [call_peek]; exact .still rfl rfl rfl (.inl rfl) (.inl rfl)
  | iterate =>
    rcases iterate_cases s with h | h
    · simp only [call, h]
      exact .still rfl rfl rfl (.inl rfl) (.inr rfl)
    · simp only [call, h]
      exact .next rfl rfl (turned_token? _) (turned_error? _)
  | push q =>
    simp only [call, pushState]
    cases s.table.state? q with
    | none => exact .still rfl rfl rfl (.inl rfl) (.inr rfl)
    | some q => exact .drive (.push q) _ (.push q _) rfl rfl
  | pop =>
    simp only [call, popState]
    cases hl : s.scanner.leave with
    | error e => exact .still rfl rfl rfl (.inl rfl) (.inr rfl)
    | ok r => exact .drive .pop r.2 (.pop hl) rfl rfl
  | setSkip k => exact .still rfl rfl rfl (.inr rfl) (.inr rfl)
  | _ => exact .still rfl rfl rfl (.inl rfl) (.inr rfl)

theorem calls_keep (P : Session σ → Prop) : ∀ (cs : List (Call σ)) (s : Session σ),
    (∀ c ∈ cs, ∀ s, P s → P (s.call c).2) → P s → P (s.calls cs).2
  | [], _, _, h => h
  | c :: cs, s, hc, h =>
    calls_keep P cs (s.call c).2 (fun c' hc' => hc c' (List.mem_cons_of_mem _ hc')) (hc c List.mem_cons_self s h)

/-- **A failure that is kept is never lost.** -/
theorem call_failure {e : ScanError} (hf : s.failure = some e) (c : Call σ) : (s.call c).2.failure = some e := by
  cases call_effect s c with
  | still _ _ h => rw [h, hf]
  | drive _ _ _ hs => rw [hs]; exact hf
  | next _ hs => rw [hs, next_of_failure hf]; exact hf

theorem calls_failure {e : ScanError} (cs : List (Call σ)) (hf : s.failure = some e) :
    (s.calls cs).2.failure = some e :=
  calls_keep (·.failure = some e) cs s (fun c _ _ h => call_failure h c) hf

/-- **Only an error in a reply is kept as a failure**, and none that was found by looking ahead. -/
theorem call_failure_none {c : Call σ} (hf : s.failure = none) (hc : c.isPeek = false → (s.call c).1.error? = none) :
    (s.call c).2.failure = none := by
  cases call_effect s c with
  | still _ _ h => rw [h, hf]
  | drive _ _ _ hs => rw [hs]; exact hf
  | next hp hs _ he => rw [hs]; exact next_failure_none hf (he ▸ hc hp)

theorem calls_failure_none : ∀ (cs : List (Call σ)) (s : Session σ), s.failure = none →
    (∀ r ∈ (s.calls cs).1, r.1.isPeek = false → r.2.error? = none) → (s.calls cs).2.failure = none
  | [], _, hf, _ => hf
  | c :: cs, s, hf, h => by
    rw [calls_cons] at h ⊢
    refine calls_failure_none cs _ (call_failure_none hf (h _ List.mem_cons_self)) fun r hr => h r ?_
    exact List.mem_cons_of_mem _ hr

theorem call_table (s : Session σ) (c : Call σ) : (s.call c).2.table = s.table := by
  cases call_effect s c with
  | still _ ht => exact ht
  | drive _ _ _ hs => rw [hs]
  | next _ hs => rw [hs, (next_keeps s).1]

theorem calls_table (s : Session σ) (cs : List (Call σ)) : (s.calls cs).2.table = s.table :=
  calls_keep (·.table = s.table) cs s (fun c _ s' h => (call_table s' c).trans h) rfl

/-- Only `setSkip` changes what is hidden. -/
theorem call_skip {c : Call σ} (hs : s.options.skip = .empty) (hc : ∀ k, c = .setSkip k → k = .empty) :
    (s.call c).2.options.skip = .empty := by
  cases call_effect s c with
  | still _ _ _ hk =>
    rcases hk with hk | hk
    · rw [hk, hs]
    · exact hc _ hk
  | drive _ _ _ h => rw [h]; exact hs
  | next _ h => rw [h, (next_keeps s).2.1, hs]

theorem calls_skip {cs : List (Call σ)} (hs : s.options.skip = .empty) (hc : ∀ k, Call.setSkip k ∈ cs → k = .empty) :
    (s.calls cs).2.options.skip = .empty :=
  calls_keep (·.options.skip = .empty) cs s (fun _ hm _ h => call_skip h fun k hk => hc k (hk ▸ hm)) hs

theorem handedOut_cons (c : Call σ) (r : Reply) (rs : List (Call σ × Reply)) :
    handedOut ((c, r) :: rs) = (if c.isPeek then [] else r.token?.toList) ++ handedOut rs := by
  unfold handedOut
  cases hc : c.isPeek <;> cases hr : r.token? <;> simp [hc, hr]

/-- **The history of a call.**  What it hands out are the tokens taken that are not hidden. -/
theorem call_history (s : Session σ) (c : Call σ) :
    ∃ es, History s.table s.scanner es (s.call c).2.scanner ∧
      s.visible (taken es) = (if c.isPeek then [] else (s.call c).1.token?.toList) ∧
      ∀ e, Event.failed e ∈ es → (s.call c).2.failure = some e := by
  cases call_effect s c with
  | still hsc _ _ _ hr =>
    rw [hsc]
    refine ⟨[], .start, ?_, fun e he => (by cases he)⟩
    rcases hr with hr | hr <;> rw [hr]
    · rfl
    · split <;> rfl
  | drive m k hm hs hr =>
    rw [hs, hr]
    refine ⟨[.drove m], (Scanner.Change.drive hm).history, ?_, fun e he => (by simp at he)⟩
    split <;> rfl
  | next hc hs hr _ =>
    obtain ⟨es, hes, hvis, hfail⟩ := next_history s
    rw [hs, hr, hc]
    exact ⟨es, hes, hvis, hfail⟩

theorem visible_of_empty (hs : s.options.skip = .empty) (toks : List Token) : s.visible toks = toks := by
  unfold visible
  rw [hs, List.filter_eq_self]
  intro tok _
  simp

/-- **The history of calls.**  Where nothing is hidden, all that was taken was handed out. -/
theorem calls_history : ∀ (cs : List (Call σ)) (s : Session σ),
    ∃ es, History s.table s.scanner es (s.calls cs).2.scanner ∧
      (∀ e, Event.failed e ∈ es → (s.calls cs).2.failure = some e) ∧
      (s.options.skip = .empty → (∀ k, Call.setSkip k ∈ cs → k = .empty) → taken es = handedOut (s.calls cs).1)
  | [], _ => ⟨[], .start, fun e he => (by cases he), fun _ _ => rfl⟩
  | c :: cs, s => by
    obtain ⟨es, hes, hvis, hfail⟩ := call_history s c
    obtain ⟨fs, hfs, hfail', htaken⟩ := calls_history cs (s.call c).2
    rw [call_table] at hfs
    refine ⟨es ++ fs, hes.trans hfs, fun e he => ?_, fun hs hc => ?_⟩
    · rcases List.mem_append.1 he with he | he
      · exact calls_failure cs (hfail e he)
      · exact hfail' e he
    · rw [calls_cons, handedOut_cons, Scanner.taken_append, ← hvis, visible_of_empty hs,
        htaken (call_skip hs fun k hk => hc k (hk ▸ List.mem_cons_self))
          fun k hk => hc k (List.mem_cons_of_mem _ hk)]

end Session
end ModalLexer
