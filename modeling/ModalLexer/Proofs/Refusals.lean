import ModalLexer.Proofs.Failing
import ModalLexer.Proofs.Running
/-!
# Refusals — what a refused request does to a session

Entering a state that the table does not declare, or leaving the bottom one, is refused.  The refusal changes nothing,
and unlike an error of scanning it is not kept.  No later call for a token ever answers it either: scanning enters none
but declared states, and where it fails to leave the bottom one it has taken some text by then, so the place it reports
lies ahead of every place where that was refused on demand before (`ScanError.Ahead`).
-/
namespace ModalLexer

/-- The error with which a request to enter or to leave a state is refused. -/
def Reply.refusal? : Reply → Option ScanError
  | entered (.error e) => some e
  | left (.error e) => some e
  | _ => none

/-- What scanning may fail with from an offset on: no state is undeclared to it, and it is behind that offset where it
fails to leave the bottom state. -/
structure ScanError.Ahead (offset : Nat) (e : ScanError) : Prop where
  declared : e.cause.kind ≠ .unknownState
  bottom : e.cause.kind = .stateUnderflow → offset < e.loc.offset

theorem ScanError.Ahead.mono {m n : Nat} {e : ScanError} (h : e.Ahead n) (hmn : m ≤ n) : e.Ahead m :=
  ⟨h.declared, fun hk => Nat.lt_of_le_of_lt hmn (h.bottom hk)⟩

/-- An error of another kind, wherever it is. -/
theorem ScanError.Ahead.of_kind {n : Nat} {k : ErrorKind} {e : ScanError} (h : e.cause.kind = k)
    (hd : k ≠ .unknownState) (hb : k ≠ .stateUnderflow) : e.Ahead n :=
  ⟨h ▸ hd, fun hk => absurd (h.symm.trans hk) hb⟩

namespace Scanner

variable {t : Table} {p : Policy} {s s₁ : Scanner} {e : ScanError} {es : List Event}

/-- **A failing step fails ahead** of where it began. -/
theorem step_fails_ahead (h : s.step t p = .fail e s₁) : e.Ahead s.loc.offset := by
  rcases step_fail h with ⟨-, ⟨-, -, rfl⟩ | ⟨c, -, -, rfl⟩ | ⟨m, -, ⟨-, rfl⟩ | ⟨-, hb⟩⟩⟩ |
    ⟨m, ends, records, hm, -, -, -, -, rfl, rfl⟩
  · exact .of_kind (unterminated_kind s) (by decide) (by decide)
  · exact .of_kind (k := .noRuleMatched) rfl (by decide) (by decide)
  · exact .of_kind (k := .unterminatedConstruct) rfl (by decide) (by decide)
  · exact .of_kind (balance_error_kind hb) (by decide) (by decide)
  · -- the text of the rule lies between
    refine ⟨ErrorKind.noConfusion, fun _ => ?_⟩
    obtain ⟨hpos, hle⟩ := Table.choose?_bounds hm
    have hne : s.rest.take m.length ≠ [] := by
      rw [← List.length_pos_iff, List.length_take]
      omega
    have hbytes := Text.bytes_pos hne
    change s.loc.offset < (s.loc.advance (s.rest.take m.length)).offset
    rw [Location.advance_offset]
    omega

/-- **No change goes back.** -/
theorem Change.offset_le {ev : Event} (h : Change t s ev s₁) : s.loc.offset ≤ s₁.loc.offset := by
  cases h with
  | take _ _ _ hmv =>
    rw [hmv.place.2.1]
    exact skipChars_offset _ _
  | drive hmv => exact Nat.le_of_eq (congrArg (·.offset) hmv.place.2.1.symm)
  | finish hs =>
    obtain ⟨-, -, rfl⟩ := step_finish_iff.1 hs
    exact Nat.le_refl _
  | fail hs =>
    rcases step_fail hs with ⟨rfl, -⟩ | ⟨m, ends, records, -, -, -, -, -, rfl, -⟩
    · exact Nat.le_refl _
    · exact skipChars_offset _ _

theorem History.offset_le (h : History t s es s₁) : s.loc.offset ≤ s₁.loc.offset := by
  induction h with
  | start => exact Nat.le_refl _
  | snoc _ hc ih => exact Nat.le_trans ih hc.offset_le

end Scanner

namespace Session

variable {σ : Type} {s : Session σ} {e : ScanError}

/-- **An error that a call for a token meets lies ahead.** -/
theorem next_fails_ahead (hf : s.failure = none) (hn : s.next.1 = .error e) : e.Ahead s.scanner.loc.offset := by
  obtain ⟨us, k, hsteps, -, -, hnext⟩ := next_steps hf
  rw [hnext] at hn
  cases hk : k.step s.table s.options.policy with
  | token tok k' => simp [hk] at hn
  | finish k' => simp [hk] at hn
  | fail e' k' =>
    obtain rfl : e' = e := by simpa [hk] using hn
    obtain ⟨es, hes, -, -⟩ := hsteps.history
    exact (Scanner.step_fails_ahead hk).mono hes.offset_le

/-- The failure that a call for a token leaves is what it answers. -/
theorem next_of_kept (h : s.next.2.failure = some e) : s.next.1 = .error e := by
  cases hn : s.next.1 with
  | error e' =>
    have hkept := next_failure (Prod.ext hn rfl)
    rw [h] at hkept
    cases hkept
    rfl
  | ok tok =>
    cases hf : s.failure with
    | some e' =>
      rw [next_of_failure hf] at hn
      cases hn
    | none =>
      have hnone := next_failure_none hf (by rw [hn]; cases tok <;> rfl)
      rw [h] at hnone
      cases hnone

/-- At or behind an offset, a failure if any lying ahead of it. -/
structure Past (offset : Nat) (s : Session σ) : Prop where
  place : offset ≤ s.scanner.loc.offset
  failure : ∀ e, s.failure = some e → e.Ahead offset

theorem Past.next_error {n : Nat} (h : s.Past n) (hn : s.next.1 = .error e) : e.Ahead n := by
  cases hf : s.failure with
  | none => exact (next_fails_ahead hf hn).mono h.place
  | some e' =>
    rw [next_of_failure hf] at hn
    cases hn
    exact h.failure _ hf

/-- **No call goes back**, and no failure it keeps lies behind. -/
theorem Past.call {n : Nat} (h : s.Past n) (c : Call σ) : (s.call c).2.Past n := by
  obtain ⟨es, hes, -, -⟩ := call_history s c
  refine ⟨Nat.le_trans h.place hes.offset_le, fun e he => ?_⟩
  cases call_effect s c with
  | still _ _ hf => exact h.failure e (hf ▸ he)
  | drive _ _ _ hs =>
    rw [hs] at he
    exact h.failure e he
  | next _ hs =>
    rw [hs] at he
    exact h.next_error (next_of_kept he)

theorem Past.calls {n : Nat} (h : s.Past n) (cs : List (Call σ)) : (s.calls cs).2.Past n :=
  calls_keep (·.Past n) cs s (fun c _ _ hs => hs.call c) h

/-- **A refused request changes nothing**, and it is refused for what scanning does not fail with from there on. -/
theorem call_refused {c : Call σ} (hr : (s.call c).1.refusal? = some e) :
    (s.call c).2 = s ∧ ¬e.Ahead s.scanner.loc.offset := by
  cases c with
  | push q =>
    simp only [Session.call, pushState] at hr ⊢
    cases hq : s.table.state? q with
    | some state => simp [hq, Reply.refusal?] at hr
    | none =>
      simp only [hq, Reply.refusal?, Option.some.injEq, true_and] at hr ⊢
      subst hr
      exact fun h => h.declared rfl
  | pop =>
    simp only [Session.call, popState] at hr ⊢
    cases hl : s.scanner.leave with
    | ok r => simp [hl, Except.map, Reply.refusal?] at hr
    | error e' =>
      simp only [hl, Except.map, Reply.refusal?, Option.some.injEq, true_and] at hr ⊢
      subst hr
      obtain ⟨-, rfl⟩ := Scanner.leave_eq_error.1 hl
      exact fun h => Nat.lt_irrefl _ (h.bottom rfl)
  | _ => cases hr

/-- **A refusal ends nothing.**  A request to enter or to leave a state that is refused leaves the session as it was, its
states and records included.  If the session had not failed before, then whatever calls follow, no call for a token and
no look ahead ever answers the error of the refusal. -/
theorem refusals_end_nothing (s : Session σ) (c : Call σ) (e : ScanError) (hf : s.failure = none)
    (hr : (s.call c).1.refusal? = some e) :
    (s.call c).2 = s ∧ ∀ cs : List (Call σ),
      let s' := ((s.call c).2.calls cs).2
      s'.next.1 ≠ .error e ∧ s'.peek.1 ≠ .error e := by
  obtain ⟨hs, hnot⟩ := call_refused hr
  rw [hs]
  refine ⟨rfl, fun cs => ?_⟩
  have hpast : s.Past s.scanner.loc.offset := ⟨Nat.le_refl _, fun e' he => by rw [hf] at he; cases he⟩
  have hnever : (s.calls cs).2.next.1 ≠ .error e := fun hn => hnot ((hpast.calls cs).next_error hn)
  exact ⟨hnever, by rwa [peek_answer]⟩

/-- Behind the opening of a template, inside it: a state that is not declared is refused, and the session goes on to a
token and to the end of the text, where another error is kept. -/
theorem undeclared_forgotten :
    let s := ((Session.new Sample.table "`é\n".toList "t" {} ()).calls [.next]).2
    let e : ScanError := ⟨.undeclaredState "NONE", ⟨1, 1, 2, "t"⟩⟩
    let s' := ((s.call (.push "NONE")).2.calls [.next, .next]).2
    s.failure = none ∧ (s.call (.push "NONE")).1 = .entered (.error e) ∧ (s.call (.push "NONE")).2 = s ∧
      s'.failure = some ⟨.unterminatedState "TEMPLATE", ⟨0, 1, 1, "t"⟩⟩ ∧ s'.next.1 ≠ .error e := by
  intro s e s'
  have hr : (s.call (.push "NONE")).1 = .entered (.error e) := rfl
  obtain ⟨hs, hnever⟩ := refusals_end_nothing s (.push "NONE") e rfl (by rw [hr]; rfl)
  exact ⟨rfl, hr, hs, by decide, (hnever [.next, .next]).1⟩

/-- **A refusal is not kept**: at the beginning of a text that is one name, leaving the bottom state is refused, and so
is entering a state that is not declared.  The next call for a token hands out the name all the same. -/
theorem refused_call_goes_on :
    let s := Session.new Sample.table "x".toList "t" {} ()
    let tok : Token := ⟨.identifier, 4, "x".toList, 1, ⟨0, 1, 1, "t"⟩, "DEFAULT"⟩
    s.failure = none ∧ (s.call .pop).1 = .left (.error ⟨.bottomPopped "DEFAULT", ⟨0, 1, 1, "t"⟩⟩) ∧
      (s.call (.push "NONE")).1 = .entered (.error ⟨.undeclaredState "NONE", ⟨0, 1, 1, "t"⟩⟩) ∧
      (s.call .pop).2.next.1 = .ok (some tok) ∧ (s.call (.push "NONE")).2.next.1 = .ok (some tok) := by
  exact ⟨rfl, rfl, rfl, rfl, rfl⟩

end Session
end ModalLexer
