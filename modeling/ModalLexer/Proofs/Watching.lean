import ModalLexer.Proofs.History
/-!
# Watching — what observers are shown

The loop over hidden kinds does not care who watches (`seek_watchedBy`), so an observer changes no answer of `next`
(`next_bare`).  To say what observers are shown, let each of them keep it besides what it does anyway (`keeping`): that
changes neither a reply nor the session otherwise, and what has been kept in the end is the tokens handed out while
there was an observer, each with the view of the session behind it (`calls_keeping`).
-/
namespace ModalLexer

variable {σ τ : Type}

/-- What observers have been shown, in turn. -/
abbrev Sights := List (View × Token)

/-- The observer, which besides keeps what it is shown. -/
def Observer.keeping (o : Observer σ) : Observer (σ × Sights) := fun v tok m =>
  let (signal, memory) := o v tok m.1
  (signal, (memory, m.2 ++ [(v, tok)]))

/-- The call, an observer it sets keeping what it is shown. -/
def Call.keeping : Call σ → Call (σ × Sights)
  | .next => .next
  | .peek => .peek
  | .iterate => .iterate
  | .push state => .push state
  | .pop => .pop
  | .setSkip skip => .setSkip skip
  | .setPolicy policy => .setPolicy policy
  | .observe o => .observe o.keeping
  | .unobserve => .unobserve
  | .resume => .resume

namespace Session

/-- The session with another observer, or none. -/
def watchedBy (s : Session σ) (o : Option (Observer τ)) (memory : τ) (paused : Bool) : Session τ :=
  { source := s.source, table := s.table, options := s.options, scanner := s.scanner, observer := o, memory, paused,
    failure := s.failure }

variable (o : Option (Observer τ)) (m : τ) (b : Bool)

theorem step_watchedBy (s : Session σ) : (s.watchedBy o m b).step = (s.step.1, s.step.2.watchedBy o m b) := by
  unfold step
  simp only [watchedBy]
  cases s.scanner.step s.table s.options.policy <;> rfl

theorem seekWithin_watchedBy : ∀ (n : Nat) (s : Session σ),
    (s.watchedBy o m b).seekWithin n = ((s.seekWithin n).1, (s.seekWithin n).2.watchedBy o m b)
  | 0, _ => rfl
  | n + 1, s => by
    rw [seekWithin_succ, seekWithin_succ, step_watchedBy]
    rcases s.step with ⟨_ | _ | tok, s₁⟩
    · rfl
    · rfl
    · have ho : (s₁.watchedBy o m b).options = s₁.options := rfl
      simp only [ho, seekWithin_watchedBy n s₁]
      split <;> rfl

/-- **The loop does not care who watches.** -/
theorem seek_watchedBy (s : Session σ) : (s.watchedBy o m b).seek = (s.seek.1, s.seek.2.watchedBy o m b) :=
  seekWithin_watchedBy o m b _ s

/-- The session without an observer, and not paused. -/
def bare (s : Session σ) : Session Unit := s.watchedBy none () false

theorem notify_bare (s : Session σ) (tok : Token) : (s.notify tok).bare = s.bare := by
  unfold notify
  split <;> rfl

/-- **An observer changes no answer.** -/
theorem next_bare (s : Session σ) : s.bare.next = (s.next.1, s.next.2.bare) := by
  have hseek : s.bare.seek = (s.seek.1, s.seek.2.bare) := seek_watchedBy none () false s
  have hf : s.bare.failure = s.failure := rfl
  unfold next
  rw [hf, hseek]
  cases s.failure with
  | some e => rfl
  | none =>
    rcases s.seek with ⟨_ | _ | tok, s₁⟩
    · rfl
    · rfl
    · have hn : s₁.bare.notify tok = s₁.bare := rfl
      simp only [hn, notify_bare]

/-! ## What is shown -/

/-- The session whose observer keeps what it is shown, `sights` having been kept so far. -/
def keeping (s : Session σ) (sights : Sights) : Session (σ × Sights) :=
  s.watchedBy (s.observer.map Observer.keeping) (s.memory, sights) s.paused

/-- What a call shows: the token it hands out and the view of the session behind it, if there is an observer. -/
def shownBy (s : Session σ) (c : Call σ) : Sights :=
  if c.isPeek || s.observer.isNone then []
  else (s.call c).1.token?.toList.map fun tok => ((s.call c).2.view, tok)

/-- What calls show in turn. -/
def shown (s : Session σ) : List (Call σ) → Sights
  | [] => []
  | c :: cs => s.shownBy c ++ (s.call c).2.shown cs

/-- What observers see in the course of calls, found by having them keep it. -/
def watch (s : Session σ) (cs : List (Call σ)) : Sights :=
  ((s.keeping []).calls (cs.map Call.keeping)).2.memory.2

variable (sights : Sights)

theorem notify_keeping (s : Session σ) (tok : Token) :
    (s.keeping sights).notify tok =
      (s.notify tok).keeping (sights ++ if s.observer.isNone then [] else [(s.view, tok)]) := by
  have ho : (s.keeping sights).observer = s.observer.map Observer.keeping := rfl
  unfold notify
  rw [ho]
  cases hs : s.observer with
  | none =>
    rw [Option.isNone_none, if_pos rfl, List.append_nil]
    rfl
  | some o =>
    simp only [Option.map_some, Option.isNone_some, Bool.false_eq_true, if_false, keeping, watchedBy, hs]
    rfl

theorem notify_view (s : Session σ) (tok : Token) : (s.notify tok).view = s.view := by
  unfold notify
  split <;> rfl

theorem seek_observer (s : Session σ) : s.seek.2.observer = s.observer := by rw [seek_frame s]

theorem seek_keeping (s : Session σ) : (s.keeping sights).seek = (s.seek.1, s.seek.2.keeping sights) := by
  have hk : s.seek.2.keeping sights =
      s.seek.2.watchedBy (s.observer.map Observer.keeping) (s.memory, sights) s.paused := by
    rw [keeping, seek_frame s]
  rw [hk]
  exact seek_watchedBy _ _ _ s

/-- What an answer of `next` shows. -/
def sighted (s : Session σ) : Sights :=
  if s.observer.isNone then [] else (Reply.answer s.next.1).token?.toList.map fun tok => (s.next.2.view, tok)

theorem next_keeping (s : Session σ) :
    (s.keeping sights).next = (s.next.1, s.next.2.keeping (sights ++ s.sighted)) := by
  have ho := seek_observer s
  have hf : (s.keeping sights).failure = s.failure := rfl
  unfold sighted next
  rw [hf, seek_keeping]
  cases s.failure with
  | some e => simp [Reply.token?]
  | none =>
    rcases hs : s.seek with ⟨e | _ | tok, s₁⟩
    · simp [Reply.token?]
      rfl
    · simp [Reply.token?]
    · rw [hs] at ho
      simp only [notify_keeping, notify_view, Reply.token?, Option.toList_some, List.map_cons, List.map_nil]
      rw [← ho]

/-- Where nothing is handed out, nothing is shown. -/
theorem shownBy_of_no_token {s : Session σ} {c : Call σ} (h : c.isPeek = true ∨ (s.call c).1.token? = none) :
    s.shownBy c = [] := by
  unfold shownBy
  rcases h with h | h
  · rw [h, Bool.true_or, if_pos rfl]
  · rw [h]
    split <;> rfl

theorem shownBy_iterate {s : Session σ} (h : s.iterate = (turned s.next.1, s.next.2)) :
    s.shownBy .iterate = s.sighted := by
  simp only [shownBy, sighted, call, h, Call.isPeek, Bool.false_or, turned_token?]

theorem iterate_keeping (s : Session σ) :
    (s.keeping sights).iterate = (s.iterate.1, s.iterate.2.keeping (sights ++ s.shownBy .iterate)) := by
  have hb' : ((s.keeping sights).paused || (s.keeping sights).failure.isSome) = (s.paused || s.failure.isSome) := rfl
  cases hb : s.paused || s.failure.isSome with
  | true =>
    have hi : s.iterate = (none, s) := by rw [iterate, hb, if_pos rfl]
    have hs : s.shownBy .iterate = [] := shownBy_of_no_token (.inr (by rw [call, hi]; rfl))
    rw [iterate, hb', hb, if_pos rfl, hi, hs, List.append_nil]
  | false =>
    have hi : s.iterate = (turned s.next.1, s.next.2) := iterate_of_running hb
    rw [iterate_of_running (hb'.trans hb), next_keeping, hi, shownBy_iterate hi]

/-- **A call shows what it hands out**: with observers that keep what they are shown it has the same reply and the same
effect, and that much more is kept. -/
theorem call_keeping (s : Session σ) (c : Call σ) :
    (s.keeping sights).call c.keeping = ((s.call c).1, (s.call c).2.keeping (sights ++ s.shownBy c)) := by
  cases c with
  | next =>
    have hs : s.shownBy .next = s.sighted := rfl
    rw [hs]
    simp only [Call.keeping, call, next_keeping]
  | peek =>
    rw [Call.keeping, call_peek, call_peek, next_keeping, shownBy_of_no_token (.inl rfl), List.append_nil]
  | iterate => simp only [Call.keeping, call, iterate_keeping]
  | push q =>
    have ht : (s.keeping sights).table = s.table := rfl
    have hs : s.shownBy (.push q) = [] := shownBy_of_no_token (.inr (by simp only [call]; split <;> rfl))
    rw [hs, List.append_nil]
    simp only [Call.keeping, call, pushState, ht]
    cases s.table.state? q <;> rfl
  | pop =>
    have hk : (s.keeping sights).scanner = s.scanner := rfl
    have hs : s.shownBy .pop = [] := shownBy_of_no_token (.inr (by simp only [call]; split <;> rfl))
    rw [hs, List.append_nil]
    simp only [Call.keeping, call, popState, hk]
    cases s.scanner.leave <;> rfl
  | _ =>
    rw [shownBy_of_no_token (.inr rfl), List.append_nil]
    rfl

/-- **Calls show what they hand out.** -/
theorem calls_keeping : ∀ (cs : List (Call σ)) (s : Session σ) (sights : Sights),
    (s.keeping sights).calls (cs.map Call.keeping) =
      ((s.calls cs).1.map fun r => (r.1.keeping, r.2), (s.calls cs).2.keeping (sights ++ s.shown cs))
  | [], s, sights => by
    rw [shown, List.append_nil]
    rfl
  | c :: cs, s, sights => by
    rw [List.map_cons, calls_cons, calls_cons, call_keeping, calls_keeping cs, shown, List.append_assoc]
    rfl

theorem watch_eq_shown (s : Session σ) (cs : List (Call σ)) : s.watch cs = s.shown cs := by
  rw [watch, calls_keeping, List.nil_append]
  rfl

end Session
end ModalLexer
