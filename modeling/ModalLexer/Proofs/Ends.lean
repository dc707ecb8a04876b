import ModalLexer.Proofs.Watching
import ModalLexer.Proofs.Tiling
/-!
# Ends — a session that has come to an end stays there

A session ends in two ways.  After an error the failure is kept, and every call for a token answers it without looking
at the scanner.  At the end of the text nothing is kept: the scanner is at rest (`Scanner.AtRest`), a step leaves it so,
and only entering a state can wake it.  Either end survives whatever calls follow (`ends_are_final`).
-/
namespace ModalLexer

/-- Behind the whole text with no state entered, the end having been noticed. -/
structure Scanner.AtRest (k : Scanner) : Prop where
  rest : k.rest = []
  depth : k.stack.depth = 0
  finished : k.finished = true

namespace Session

variable {σ : Type} {s : Session σ}

/-! ## After an error -/

/-- **A call after an error** moves nothing and shows nothing, except that it may enter or leave a state. -/
theorem call_of_failure {e : ScanError} (hf : s.failure = some e) (c : Call σ) :
    (s.call c).2.scanner.loc = s.scanner.loc ∧ s.shownBy c = [] := by
  have hn := next_of_failure hf
  cases call_effect s c with
  | still hsc _ _ _ hr => exact ⟨by rw [hsc], shownBy_of_no_token hr⟩
  | drive _ _ hm hs hr => exact ⟨by rw [hs]; exact hm.place.2.1, shownBy_of_no_token (.inr hr)⟩
  | next _ hs hr _ =>
    rw [hn] at hs hr
    exact ⟨by rw [hs], shownBy_of_no_token (.inr hr)⟩

theorem calls_of_failure {e : ScanError} : ∀ (cs : List (Call σ)) (s : Session σ), s.failure = some e →
    (s.calls cs).2.scanner.loc = s.scanner.loc ∧ s.shown cs = []
  | [], _, _ => ⟨rfl, rfl⟩
  | c :: cs, s, hf => by
    obtain ⟨hloc, hshown⟩ := call_of_failure hf c
    obtain ⟨hlocs, hshowns⟩ := calls_of_failure cs _ (call_failure hf c)
    exact ⟨hlocs.trans hloc, by rw [shown, hshown, hshowns, List.nil_append]⟩

theorem iterate_of_failure {e : ScanError} (hf : s.failure = some e) : s.iterate = (none, s) :=
  iterate_of_stopped (by rw [hf, Option.isSome_some, Bool.or_true])

/-! ## At the end of the text -/

/-- **At rest a call for a token answers that there is none**, and changes nothing. -/
theorem next_of_atRest (hf : s.failure = none) (h : s.scanner.AtRest) : s.next = (.ok none, s) := by
  have hstep : s.scanner.step s.table s.options.policy = .finish s.scanner := by
    refine Scanner.step_finish_iff.2 ⟨h.rest, h.depth, ?_⟩
    rw [← h.finished]
  rw [next, hf, seek_eq, step, hstep]

/-- **The end of the text is noticed.** -/
theorem next_atRest (hn : s.next.1 = .ok none) : s.next.2.failure = none ∧ s.next.2.scanner.AtRest := by
  cases hf : s.failure with
  | some e =>
    rw [next_of_failure hf] at hn
    cases hn
  | none =>
    refine ⟨next_failure_none hf (by rw [hn]; rfl), ?_⟩
    obtain ⟨es, k, -, -, -, hseek⟩ := seek_reaches s
    rw [(next_of_seek hf).1, hseek, step] at hn
    rw [(next_of_seek hf).2.1, hseek, step]
    cases hk : k.step s.table s.options.policy with
    | token tok k' => simp [hk] at hn
    | fail e k' => simp [hk] at hn
    | finish k' =>
      obtain ⟨hr, hd, rfl⟩ := Scanner.step_finish_iff.1 hk
      exact ⟨hr, hd, rfl⟩

/-- **No call wakes a scanner at rest**, unless it enters a state. -/
theorem call_atRest {c : Call σ} (hf : s.failure = none) (h : s.scanner.AtRest) (hc : ∀ q, c ≠ .push q) :
    (s.call c).2.failure = none ∧ (s.call c).2.scanner = s.scanner := by
  have hn := next_of_atRest hf h
  cases c with
  | push q => exact absurd rfl (hc q)
  | pop =>
    have hl := Scanner.leave_eq_error.2 ⟨h.depth, rfl⟩
    rw [call, popState, hl]
    exact ⟨hf, rfl⟩
  | next =>
    rw [call, hn]
    exact ⟨hf, rfl⟩
  | peek =>
    rw [call_peek]
    exact ⟨hf, rfl⟩
  | iterate =>
    have hi : s.iterate = (none, s) := by
      rcases iterate_cases s with hi | hi
      · exact hi
      · rw [hi, hn]
        rfl
    rw [call, hi]
    exact ⟨hf, rfl⟩
  | _ => exact ⟨hf, rfl⟩

theorem calls_atRest {cs : List (Call σ)} (hf : s.failure = none) (h : s.scanner.AtRest)
    (hc : ∀ q, Call.push q ∉ cs) : (s.calls cs).2.failure = none ∧ (s.calls cs).2.scanner = s.scanner := by
  refine calls_keep (fun s' => s'.failure = none ∧ s'.scanner = s.scanner) cs s (fun c hm s' hs => ?_) ⟨hf, rfl⟩
  have hrest : s'.scanner.AtRest := by rw [hs.2]; exact h
  obtain ⟨hf', hk⟩ := call_atRest hs.1 hrest fun q hq => hc q (hq ▸ hm)
  exact ⟨hf', hk.trans hs.2⟩

/-- **Both ends of a session are final.**  Once a call for a token has failed, whatever calls follow, every call for a
token and every look ahead answers the same error, an iteration has no turn, the place of the session stays and no
observer is shown anything.  Once a call for a token has answered that there is none, then as long as no state is entered
on demand every call for a token and every look ahead answers that there is none, an iteration has no turn, the session
stays finished, and its place, its states and its records stay as they are. -/
theorem ends_are_final (s : Session σ) :
    (∀ e, s.next.1 = .error e → ∀ cs : List (Call σ),
      let s' := (s.next.2.calls cs).2
      s'.next.1 = .error e ∧ s'.peek.1 = .error e ∧ s'.iterate.1 = none ∧
        s'.scanner.loc = s.next.2.scanner.loc ∧ s.next.2.watch cs = []) ∧
    (s.next.1 = .ok none → ∀ cs : List (Call σ), (∀ q, Call.push q ∉ cs) →
      let s' := (s.next.2.calls cs).2
      s'.next.1 = .ok none ∧ s'.peek.1 = .ok none ∧ s'.iterate.1 = none ∧ s'.isFinished = true ∧
        s'.scanner = s.next.2.scanner) := by
  constructor
  · intro e hn cs s'
    have hf : s.next.2.failure = some e := next_failure (Prod.ext hn rfl)
    have hf' : s'.failure = some e := calls_failure cs hf
    obtain ⟨hloc, hshown⟩ := calls_of_failure cs _ hf
    rw [peek_answer, next_of_failure hf', iterate_of_failure hf', watch_eq_shown]
    exact ⟨rfl, rfl, rfl, hloc, hshown⟩
  · intro hn cs hc s'
    obtain ⟨hf, hrest⟩ := next_atRest hn
    obtain ⟨hf', hk⟩ := calls_atRest hf hrest hc
    have hn' : s'.next = (.ok none, s') := next_of_atRest hf' (by rw [hk]; exact hrest)
    have hi : s'.iterate.1 = none := by
      rcases iterate_cases s' with h | h
      · rw [h]
      · rw [h, hn']
        rfl
    rw [peek_answer, hn']
    exact ⟨rfl, rfl, hi, by rw [isFinished, hk]; exact hrest.finished, hk⟩

/-- A brace that does not fit the parenthesis before it, and the end behind a name: neither is forgotten by entering a
state, by leaving one or by looking ahead. -/
theorem mismatch_and_end_are_final :
    let e : ScanError := ⟨.wrongCloser '(' '\x7d' ⟨4, 1, 5, "t"⟩, ⟨3, 1, 4, "t"⟩⟩
    let s := ((Session.new Sample.table "`$\x7b(\x7d".toList "t" {} ()).calls [.next, .next, .next]).2
    let s₁ := (s.next.2.calls [.push "DEFAULT", .resume, .iterate]).2
    let u := ((Session.new Sample.table "x".toList "t" {} ()).calls [.next]).2
    let u₁ := (u.next.2.calls [.pop, .peek, .iterate]).2
    s.next.1 = .error e ∧ s₁.next.1 = .error e ∧ s₁.iterate.1 = none ∧ s₁.scanner.loc = ⟨4, 1, 5, "t"⟩ ∧
      u.next.1 = .ok none ∧ u₁.next.1 = .ok none ∧ u₁.isFinished = true ∧ u₁.scanner.loc = ⟨1, 1, 2, "t"⟩ := by
  intro e s s₁ u u₁
  have hs : s.next.1 = .error e := error?_eq_some.1 (by decide)
  have hu : u.next.1 = .ok none := rfl
  obtain ⟨h₁, -, h₂, h₃, -⟩ := (ends_are_final s).1 e hs [.push "DEFAULT", .resume, .iterate]
  obtain ⟨h₄, -, -, h₅, h₆⟩ := (ends_are_final u).2 hu [.pop, .peek, .iterate] (by simp)
  exact ⟨hs, h₁, h₂, h₃.trans (by decide), hu, h₄, h₅, (congrArg (·.loc) h₆).trans (by decide)⟩

end Session
end ModalLexer
