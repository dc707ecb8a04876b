import ModalLexer.Proofs.Step
import ModalLexer.Session.Calls
/-!
# Seek — what the loop over hidden kinds does

Stepping touches nothing of a session but its scanner, and so does the loop (`seek_frame`).  Its fuel is never used up,
since every token takes a character: `seek_eq` is the equation of the loop without fuel.  Where nothing is hidden the
loop is one step (`seek_eq_step`).
-/
namespace ModalLexer

namespace Session

variable {σ : Type} {s s' : Session σ}

/-- **A step touches only the scanner.** -/
theorem step_frame (s : Session σ) : s.step.2 = { s with scanner := s.step.2.scanner } := by
  unfold step
  cases s.scanner.step s.table s.options.policy <;> rfl

theorem step_options (s : Session σ) : s.step.2.options = s.options := by rw [step_frame s]

/-- **The loop touches only the scanner**, whichever way it ends. -/
theorem seekWithin_frame : ∀ (n : Nat) (s : Session σ),
    (s.seekWithin n).2 = { s with scanner := (s.seekWithin n).2.scanner }
  | 0, _ => rfl
  | n + 1, s => by
    have hs := step_frame s
    rw [seekWithin]
    generalize s.step = r at hs ⊢
    obtain ⟨a, s₁⟩ := r
    simp only at hs
    split
    · rename_i tok s₂ hr
      obtain ⟨rfl, rfl⟩ := Prod.mk.inj hr
      split
      · have ih := seekWithin_frame n s₁
        rw [hs] at ih ⊢
        exact ih
      · exact hs
    · exact hs

theorem seek_frame (s : Session σ) : s.seek.2 = { s with scanner := s.seek.2.scanner } := seekWithin_frame _ s

/-- **What `next` does to a session** that has not failed. -/
theorem next_cases (hf : s.failure = none) :
    (∃ e k, s.next = (.error e, { s with scanner := k, failure := some e })) ∨
    (∃ k, s.next = (.ok none, { s with scanner := k })) ∨
    ∃ tok k, s.next = (.ok (some tok), notify { s with scanner := k } tok) := by
  have hk := seek_frame s
  unfold next
  rw [hf]
  generalize s.seek = r at hk
  obtain ⟨e | _ | tok, s₁⟩ := r
  · refine .inl ⟨e, s₁.scanner, ?_⟩
    simp only at hk ⊢
    rw [hk]
  · refine .inr (.inl ⟨s₁.scanner, ?_⟩)
    simp only at hk ⊢
    rw [hk, hf]
  · refine .inr (.inr ⟨tok, s₁.scanner, ?_⟩)
    simp only at hk ⊢
    rw [hk, hf]

theorem step_eq_token {tok : Token} (h : s.step = (.ok (some tok), s')) :
    s.scanner.step s.table s.options.policy = .token tok s'.scanner ∧ s' = { s with scanner := s'.scanner } := by
  unfold step at h
  split at h <;> cases h
  rename_i hs
  exact ⟨hs, rfl⟩

theorem step_shorter {tok : Token} (h : s.step = (.ok (some tok), s')) :
    s'.scanner.rest.length < s.scanner.rest.length :=
  Scanner.step_token_shorter (step_eq_token h).1

/-- Fuel beyond the length of the rest makes no difference. -/
theorem seekWithin_enough (m : Nat) : ∀ (n : Nat) (s : Session σ), s.scanner.rest.length < m →
    s.scanner.rest.length < n → s.seekWithin m = s.seekWithin n := by
  induction m with
  | zero => intro n s hm; omega
  | succ m ih =>
    intro n s hm hn
    obtain ⟨n, rfl⟩ := Nat.exists_eq_succ_of_ne_zero (Nat.ne_of_gt (Nat.zero_lt_of_lt hn))
    simp only [seekWithin]
    rcases hs : s.step with ⟨_ | _ | tok, s₁⟩
    · rfl
    · rfl
    · have := step_shorter hs
      simp only
      rw [ih n s₁ (by omega) (by omega)]

theorem seekWithin_succ (n : Nat) (s : Session σ) :
    s.seekWithin (n + 1) = match s.step with
      | (.ok (some tok), s₁) => if s₁.options.skip.contains tok.kind then s₁.seekWithin n else (.ok (some tok), s₁)
      | r => r := rfl

/-- **The loop without fuel.** -/
theorem seek_eq (s : Session σ) :
    s.seek = match s.step with
      | (.ok (some tok), s₁) => if s₁.options.skip.contains tok.kind then s₁.seek else (.ok (some tok), s₁)
      | r => r := by
  rw [seek, seekWithin_succ]
  rcases hs : s.step with ⟨_ | _ | tok, s₁⟩
  · rfl
  · rfl
  · have := step_shorter hs
    simp only
    rw [seek, seekWithin_enough _ (s₁.scanner.rest.length + 1) s₁ (by omega) (by omega)]

theorem seekWithin_shorter {tok : Token} : ∀ (n : Nat) (s s' : Session σ), s.seekWithin n = (.ok (some tok), s') →
    s'.scanner.rest.length < s.scanner.rest.length
  | 0, _, _, h => by cases h
  | n + 1, s, s', h => by
    rw [seekWithin_succ] at h
    rcases hs : s.step with ⟨_ | _ | tok', s₁⟩ <;> rw [hs] at h
    · cases h
    · cases h
    · have hlt := step_shorter hs
      simp only at h
      split at h
      · exact Nat.lt_trans (seekWithin_shorter n s₁ s' h) hlt
      · cases h
        exact hlt

/-- **A call that hands out a token gets ahead.** -/
theorem next_shorter {tok : Token} (h : s.next = (.ok (some tok), s')) :
    s'.scanner.rest.length < s.scanner.rest.length := by
  unfold next at h
  split at h
  · cases h
  · rcases hs : s.seek with ⟨_ | _ | tok', s₁⟩ <;> rw [hs] at h <;> cases h
    rw [notify_scanner]
    exact seekWithin_shorter _ s s₁ hs

theorem seek_eq_step (h : s.options.skip = .empty) : s.seek = s.step := by
  have ho := step_options s
  rw [seek_eq]
  generalize s.step = r at ho ⊢
  obtain ⟨_ | _ | tok, s₁⟩ := r
  · rfl
  · rfl
  · simp only at ho
    simp [ho, h]

/-- **Looking ahead leaves the session as it was**, on every way out of the loop. -/
theorem peek_session (s : Session σ) : s.peek.2 = s := by
  unfold peek
  split
  · rfl
  · simp only
    rw [seek_frame s]

/-- **Looking ahead answers what `next` answers.** -/
theorem peek_answer (s : Session σ) : s.peek.1 = s.next.1 := by
  unfold peek next
  cases s.failure with
  | some e => rfl
  | none =>
    rcases s.seek with ⟨_ | _ | tok, s₁⟩ <;> rfl

theorem call_peek (s : Session σ) : s.call .peek = (.answer s.next.1, s) := by
  simp only [call, peek_session, peek_answer]

end Session
end ModalLexer
