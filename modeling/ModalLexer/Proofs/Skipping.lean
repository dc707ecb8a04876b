import ModalLexer.Proofs.Watching
/-!
# Skipping — hiding tokens is filtering them

A transcript is what calls for tokens come to, one after another, until one answers no token: the tokens, each with the
scanner behind it, and that last answer.  It depends on nothing that an observer has or does (`transcript_bare`).  The
transcript in which nothing is hidden determines all others: whatever kinds are hidden before each call, the call picks
the first token left that is not hidden, and the scanner stands behind that token as it does in the transcript
(`skipping_filters`).  Hidden tokens are taken on the way, with all they do to states and brackets.
-/
namespace ModalLexer

/-- Tokens handed out in turn, each with the scanner behind it, and what the first call answers that hands out none. -/
structure Transcript where
  tokens : List (Token × Scanner)
  ending : Answer × Scanner

namespace Transcript

/-- The first token that is not hidden and what follows it; or the ending, which stays. -/
def pull (w : Transcript) (hidden : KindSet) : (Answer × Scanner) × Transcript :=
  match w.tokens.dropWhile fun e => hidden.contains e.1.kind with
  | [] => (w.ending, ⟨[], w.ending⟩)
  | (tok, k) :: toks => ((.ok (some tok), k), ⟨toks, w.ending⟩)

/-- Pulls once for each set of hidden kinds. -/
def sift : Transcript → List KindSet → List (Answer × Scanner)
  | _, [] => []
  | w, hidden :: hs => (w.pull hidden).1 :: sift (w.pull hidden).2 hs

theorem pull_nil (hidden : KindSet) (r : Answer × Scanner) : pull ⟨[], r⟩ hidden = (r, ⟨[], r⟩) := rfl

theorem pull_hidden {hidden : KindSet} {tok : Token} (h : hidden.contains tok.kind = true) (k : Scanner)
    (w : Transcript) : pull ⟨(tok, k) :: w.tokens, w.ending⟩ hidden = w.pull hidden := by
  unfold pull
  simp only [List.dropWhile_cons, h, if_true]

theorem pull_visible {hidden : KindSet} {tok : Token} (h : hidden.contains tok.kind = false) (k : Scanner)
    (w : Transcript) : pull ⟨(tok, k) :: w.tokens, w.ending⟩ hidden = ((.ok (some tok), k), w) := by
  unfold pull
  simp only [List.dropWhile_cons, h, Bool.false_eq_true, if_false]

end Transcript

namespace Session

variable {σ : Type}

/-- The transcript of a session. -/
def transcript (s : Session σ) : Transcript :=
  match _h : s.next with
  | (.error e, s₁) => ⟨[], (.error e, s₁.scanner)⟩
  | (.ok none, s₁) => ⟨[], (.ok none, s₁.scanner)⟩
  | (.ok (some tok), s₁) => ⟨(tok, s₁.scanner) :: s₁.transcript.tokens, s₁.transcript.ending⟩
termination_by s.scanner.rest.length
decreasing_by all_goals exact next_shorter _h

theorem transcript_eq (s : Session σ) :
    s.transcript = match s.next with
      | (.error e, s₁) => ⟨[], (.error e, s₁.scanner)⟩
      | (.ok none, s₁) => ⟨[], (.ok none, s₁.scanner)⟩
      | (.ok (some tok), s₁) => ⟨(tok, s₁.scanner) :: s₁.transcript.tokens, s₁.transcript.ending⟩ := by
  rw [transcript]
  split <;> simp_all

theorem transcript_bare (s : Session σ) : s.bare.transcript = s.transcript := by
  rw [transcript_eq s, transcript_eq s.bare, next_bare]
  rcases hn : s.next with ⟨_ | _ | tok, s₁⟩
  · rfl
  · rfl
  · simp only
    rw [transcript_bare s₁]
    rfl
termination_by s.scanner.rest.length
decreasing_by exact next_shorter hn

theorem transcript_notify (s : Session σ) (tok : Token) : (s.notify tok).transcript = s.transcript := by
  rw [← transcript_bare, notify_bare, transcript_bare]

/-! ## Hidden kinds -/

theorem step_setSkip (s : Session σ) (hidden : KindSet) :
    (s.setSkip hidden).step = (s.step.1, s.step.2.setSkip hidden) := by
  unfold step
  simp only [setSkip]
  cases s.scanner.step s.table s.options.policy <;> rfl

theorem step_failure (s : Session σ) : s.step.2.failure = s.failure := by rw [step_frame s]

/-- The transcript in which nothing is hidden. -/
def whole (s : Session σ) : Transcript := (s.setSkip .empty).transcript

theorem whole_setSkip (s : Session σ) (hidden : KindSet) : (s.setSkip hidden).whole = s.whole := rfl

theorem whole_notify (s : Session σ) (tok : Token) : (s.notify tok).whole = s.whole := by
  have hbare : ((s.notify tok).setSkip .empty).bare = (s.setSkip .empty).bare :=
    congrArg (·.setSkip .empty) (notify_bare s tok)
  rw [whole, ← transcript_bare, hbare, transcript_bare, whole]

theorem whole_of_failure {s : Session σ} {e : ScanError} (hf : s.failure = some e) :
    s.whole = ⟨[], (.error e, s.scanner)⟩ := by
  have hf' : (s.setSkip .empty).failure = some e := hf
  rw [whole, transcript_eq, next, hf']
  rfl

/-- **Where nothing is hidden, every step shows.** -/
theorem whole_eq {s : Session σ} (hf : s.failure = none) :
    s.whole = match s.step with
      | (.error e, s₁) => ⟨[], (.error e, s₁.scanner)⟩
      | (.ok none, s₁) => ⟨[], (.ok none, s₁.scanner)⟩
      | (.ok (some tok), s₁) => ⟨(tok, s₁.scanner) :: s₁.whole.tokens, s₁.whole.ending⟩ := by
  have hf' : (s.setSkip .empty).failure = none := hf
  rw [whole, transcript_eq, next, hf', seek_eq_step rfl, step_setSkip]
  rcases s.step with ⟨_ | _ | tok, s₁⟩
  · rfl
  · rfl
  · simp only [transcript_notify, notify_scanner]
    rfl

/-- **At the end of the text the scanner stays.** -/
theorem step_of_finished {s s₁ : Session σ} (h : s.step = (.ok none, s₁)) : s₁.step = (.ok none, s₁) := by
  unfold step at h
  split at h <;> cases h
  rename_i k hk
  obtain ⟨hr, hd, rfl⟩ := Scanner.step_finish_iff.1 hk
  have hk' : Scanner.step s.table s.options.policy { s.scanner with finished := true } =
      .finish { s.scanner with finished := true } := Scanner.step_finish_iff.2 ⟨hr, hd, rfl⟩
  simp only [step, hk']

/-- **One call picks the first token that is not hidden**, and leaves what follows it. -/
theorem next_pull (s : Session σ) (hidden : KindSet) :
    let r := (s.setSkip hidden).next
    ((r.1, r.2.scanner), r.2.whole) = s.whole.pull hidden := by
  cases hf : s.failure with
  | some e =>
    have hn : (s.setSkip hidden).next = (.error e, s.setSkip hidden) := by
      unfold next
      rw [show (s.setSkip hidden).failure = some e from hf]
    simp only [hn]
    rw [whole_setSkip, whole_of_failure hf, Transcript.pull_nil]
    rfl
  | none =>
    have hf' : (s.setSkip hidden).failure = none := hf
    rw [whole_eq hf, next, hf', seek_eq, step_setSkip]
    rcases hs : s.step with ⟨e | _ | tok, s₁⟩
    · -- the error is kept, and answers from now on
      simp only [Transcript.pull_nil]
      rw [whole_of_failure rfl]
      rfl
    · have hf₁ : s₁.failure = s.failure := by
        have hfail := step_failure s
        rw [hs] at hfail
        exact hfail
      simp only [Transcript.pull_nil]
      rw [whole_setSkip, whole_eq (hf₁.trans hf), step_of_finished hs]
      rfl
    · obtain ⟨-, hs₁⟩ := step_eq_token hs
      have hf₁ : (s₁.setSkip hidden).failure = none := by
        rw [hs₁]
        exact hf
      have ho : (s₁.setSkip hidden).options.skip = hidden := rfl
      simp only [ho]
      cases hk : hidden.contains tok.kind with
      | true =>
        have ih := next_pull s₁ hidden
        rw [next, hf₁] at ih
        rw [Transcript.pull_hidden hk s₁.scanner s₁.whole, if_pos rfl]
        exact ih
      | false =>
        rw [Transcript.pull_visible hk s₁.scanner s₁.whole, if_neg Bool.false_ne_true]
        simp only [notify_scanner, whole_notify, whole_setSkip]
        rfl
termination_by s.scanner.rest.length
decreasing_by exact step_shorter hs

/-- Calls for a token, each after a set of kinds is hidden: their answers, and the scanner behind each. -/
def pulls (s : Session σ) : List KindSet → List (Answer × Scanner)
  | [] => []
  | hidden :: hs =>
    let r := (s.setSkip hidden).next
    (r.1, r.2.scanner) :: r.2.pulls hs

/-- **Skipping is filtering.**  Take what a session hands out while nothing is hidden.  If instead other kinds are hidden
before each call for a token, then each call answers the first of those tokens that is left and not hidden, the same in
all it has, and the scanner behind it, with its location, its states and its records, is the same.  Where no such token
is left, the call comes to the same end or to the same error. -/
theorem skipping_filters (s : Session σ) (hs : List KindSet) :
    s.pulls hs = (s.setSkip .empty).transcript.sift hs := by
  induction hs generalizing s with
  | nil => rfl
  | cons hidden hs ih =>
    have hpull : _ = (s.setSkip .empty).transcript.pull hidden := next_pull s hidden
    rw [pulls, Transcript.sift, ← hpull]
    exact congrArg _ (ih _)

end Session
end ModalLexer
