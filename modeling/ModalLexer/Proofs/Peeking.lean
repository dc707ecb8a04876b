import ModalLexer.Proofs.Seek
/-!
# Peeking — looking ahead leaves no trace

`peek` runs the same loop as `next`, through hidden tokens and all changes of state, and puts back the scanner alone.
That is enough (`peek_session`), because the loop touches nothing else.  So calls that look ahead may be struck from a
history, or put in anywhere: the other calls have the same replies and the session ends the same
(`peek_leaves_no_trace`).
-/
namespace ModalLexer
namespace Session

variable {σ : Type}

/-- A history without its looks ahead: the other replies and the session at the end are the same. -/
theorem calls_filter_isPeek : ∀ (cs : List (Call σ)) (s : Session σ),
    s.calls (cs.filter fun c => !c.isPeek) = ((s.calls cs).1.filter fun r => !r.1.isPeek, (s.calls cs).2)
  | [], _ => rfl
  | c :: cs, s => by
    rw [calls_cons]
    cases hc : c.isPeek with
    | true =>
      have : c = .peek := by cases c <;> first | rfl | cases hc
      subst this
      rw [List.filter_cons_of_neg (by simp [hc]), List.filter_cons_of_neg (by simp [hc]), call_peek]
      exact calls_filter_isPeek cs s
    | false =>
      rw [List.filter_cons_of_pos (by simp [hc]), List.filter_cons_of_pos (by simp [hc]), calls_cons,
        calls_filter_isPeek cs]

/-- **Looking ahead leaves no trace.**  It answers what `next` would answer and leaves the whole session as it was, what
the observer remembers included; and a history gives the same replies, those to looks ahead apart, and leads to the same
session as the history without its looks ahead. -/
theorem peek_leaves_no_trace (s : Session σ) :
    s.peek = (s.next.1, s) ∧ s.peek.2.next = s.next ∧
      ∀ cs : List (Call σ), s.calls (cs.filter fun c => !c.isPeek) =
        ((s.calls cs).1.filter fun r => !r.1.isPeek, (s.calls cs).2) :=
  ⟨Prod.ext (peek_answer s) (peek_session s), by rw [peek_session], fun cs => calls_filter_isPeek cs s⟩

end Session
end ModalLexer
