import ModalLexer.Proofs.Pausing
import ModalLexer.Proofs.Refusals
import ModalLexer.Proofs.Shapes
/-!
# Progress — every loop comes to an end by consuming the text

Four loops lie one above the other: steps until a kind that is not hidden, calls of `next` until the end or an error,
turns of an iteration, and turns of a scan, which may enter a state before it calls.  They are computed with fuel, and
here each is stated without (`Seeks`, `Pulls`, `Iterates` and, for the scan, `Turns`), so that a bound on its turns can
be read off.  One measure bounds them all, the length of the rest of the text: a token takes a byte at least, and nothing
gives it back but `peek`, which hands out nothing.
-/
namespace ModalLexer

/-- No text has more characters than bytes. -/
theorem Text.length_le_bytes : ∀ t : Text, t.length ≤ t.bytes
  | [] => Nat.le_refl _
  | c :: t => by
    have ih := length_le_bytes t
    have hpos := c.utf8Size_pos
    rw [List.length_cons, bytes_cons]
    omega

namespace Scanner

variable {t : Table} {p : Policy} {source : Text} {name : String} {s s₁ : Scanner} {tok : Token}

/-- **A step that makes a token gets a byte ahead**, at least. -/
theorem step_token_offset (h : s.step t p = .token tok s₁) : s.loc.offset + 1 ≤ s₁.loc.offset := by
  obtain ⟨-, -, hne, -, hloc, -⟩ := step_token_consumes h
  have hpos := Text.bytes_pos hne
  rw [hloc, Location.advance_offset]
  omega

theorem Change.taken_offset {e : Event} (h : Change t s e s₁) : s.loc.offset + (taken [e]).length ≤ s₁.loc.offset := by
  cases h with
  | take hm hu hb hmv => exact step_token_offset (step_token_iff.2 ⟨_, _, _, hm, hu, hb, rfl, hmv⟩)
  | drive hmv =>
    have hc : Change t s _ s₁ := .drive hmv
    exact hc.offset_le
  | finish hf => exact (Change.finish hf).offset_le
  | fail hf => exact (Change.fail hf).offset_le

/-- **Every token taken** accounts for a byte of the text. -/
theorem History.taken_offset {es : List Event} (h : History t s es s₁) :
    s.loc.offset + (taken es).length ≤ s₁.loc.offset := by
  induction h with
  | start => exact Nat.le_refl _
  | snoc _ hc ih =>
    have hlast := hc.taken_offset
    rw [taken_append, List.length_append]
    omega

theorem Placed.offset_add (h : Placed source name s) : s.loc.offset + s.rest.bytes = source.bytes := by
  obtain ⟨u, rfl, hloc⟩ := h
  rw [hloc, Location.start_advance_offset, Text.bytes_append]

end Scanner

namespace Session

variable {σ : Type} {s s₁ s₂ : Session σ}

/-! ## The loops without fuel -/

/-- **The loop over hidden kinds**, with the number of its steps and what it comes to. -/
inductive Seeks : Session σ → Nat → Answer × Session σ → Prop
  | stop {s s₁ : Session σ} {a : Answer} (h : s.step = (a, s₁))
      (hk : ∀ tok, a = .ok (some tok) → s.options.skip.contains tok.kind = false) : Seeks s 1 (a, s₁)
  | skip {s s₁ : Session σ} {tok : Token} {n : Nat} {r : Answer × Session σ} (h : s.step = (.ok (some tok), s₁))
      (hk : s.options.skip.contains tok.kind = true) (hs : Seeks s₁ n r) : Seeks s (n + 1) r

/-- Calls of `next`, each of which hands out a token. -/
inductive Pulls : Session σ → List Token → Session σ → Prop
  | nil (s : Session σ) : Pulls s [] s
  | cons {s s₁ s₂ : Session σ} {tok : Token} {toks : List Token} (h : s.next = (.ok (some tok), s₁))
      (hs : Pulls s₁ toks s₂) : Pulls s (tok :: toks) s₂

/-- Turns of an iteration, none of which is the last. -/
inductive Iterates : Session σ → List Turn → Session σ → Prop
  | nil (s : Session σ) : Iterates s [] s
  | cons {s s₁ s₂ : Session σ} {r : Turn} {rs : List Turn} (h : s.iterate = (some r, s₁)) (hs : Iterates s₁ rs s₂) :
      Iterates s (r :: rs) s₂

/-- The tokens among turns. -/
def turnTokens (rs : List Turn) : List Token := rs.filterMap Except.toOption

/-- **The loop over hidden kinds ends** within a step for each character and one more. -/
theorem exists_seeks (s : Session σ) : ∃ n, n ≤ s.scanner.rest.length + 1 ∧ Seeks s n s.seek := by
  rw [seek_eq]
  rcases hs : s.step with ⟨e | _ | tok, s₁⟩
  · exact ⟨1, Nat.le_add_left _ _, .stop hs fun tok h => by cases h⟩
  · exact ⟨1, Nat.le_add_left _ _, .stop hs fun tok h => by cases h⟩
  · obtain ⟨-, hframe⟩ := step_eq_token hs
    have ho : s₁.options = s.options := by rw [hframe]
    have hlt := step_shorter hs
    simp only [ho]
    cases hk : s.options.skip.contains tok.kind with
    | true =>
      obtain ⟨n, hn, hseeks⟩ := exists_seeks s₁
      exact ⟨n + 1, by omega, .skip hs hk hseeks⟩
    | false =>
      refine ⟨1, Nat.le_add_left _ _, .stop hs fun tok' h => ?_⟩
      cases h
      exact hk
termination_by s.scanner.rest.length

/-- **Calls of `next` come to an end or an error**, and that is what comes of the tokens. -/
theorem exists_pulls (s : Session σ) : ∃ toks s₁, Pulls s toks s₁ ∧ toks.length ≤ s.scanner.rest.length ∧
    ((s₁.next.1 = .ok none ∧ s.tokens = .ok toks) ∨ ∃ e, s₁.next.1 = .error e ∧ s.tokens = .error e) := by
  rw [tokens_of_next]
  rcases hn : s.next with ⟨e | _ | tok, s₁⟩
  · exact ⟨[], s, .nil s, Nat.zero_le _, .inr ⟨e, by rw [hn], rfl⟩⟩
  · exact ⟨[], s, .nil s, Nat.zero_le _, .inl ⟨by rw [hn], rfl⟩⟩
  · have hlt := next_shorter hn
    obtain ⟨toks, s₂, hpulls, hlength, hend⟩ := exists_pulls s₁
    refine ⟨tok :: toks, s₂, .cons hn hpulls, by rw [List.length_cons]; omega, ?_⟩
    rcases hend with ⟨hnone, htoks⟩ | ⟨e, herror, htoks⟩
    · exact .inl ⟨hnone, by simp only [htoks]; rfl⟩
    · exact .inr ⟨e, herror, by simp only [htoks]; rfl⟩
termination_by s.scanner.rest.length

/-- **An iteration comes to its last turn.** -/
theorem exists_iterates (s : Session σ) :
    ∃ s₁, Iterates s s.iterateAll.1 s₁ ∧ s₁.iterate = (none, s.iterateAll.2) := by
  rw [iterateAll_eq]
  rcases hi : s.iterate with ⟨_ | r, s₁⟩
  · exact ⟨s, .nil s, hi⟩
  · have hlt := turnsLeft_lt hi
    obtain ⟨s₂, hiterates, hlast⟩ := exists_iterates s₁
    exact ⟨s₂, .cons hi hiterates, hlast⟩
termination_by s.turnsLeft

/-- **An iteration hands out no more tokens than there are characters.**  An error is its last turn. -/
theorem Iterates.length_le {rs : List Turn} (h : Iterates s rs s₁) :
    (turnTokens rs).length ≤ s.scanner.rest.length := by
  induction h with
  | nil => exact Nat.zero_le _
  | @cons s s₁ s₂ r rs hi hs ih =>
    have hrunning : (s.paused || s.failure.isSome) = false := by
      cases hb : s.paused || s.failure.isSome with
      | false => rfl
      | true =>
        rw [iterate_of_stopped hb] at hi
        cases hi
    rw [iterate_of_running hrunning] at hi
    obtain ⟨hr, rfl⟩ := Prod.mk.inj hi
    rcases hn : s.next with ⟨e | _ | tok, s₁⟩
    · rw [hn] at hr hs
      cases hr
      have hf := next_failure hn
      cases hs with
      | nil => exact Nat.zero_le _
      | cons hi =>
        rw [iterate_of_stopped (by rw [hf, Option.isSome_some, Bool.or_true])] at hi
        cases hi
    · rw [hn] at hr
      cases hr
    · have hlt := next_shorter hn
      rw [hn] at hr ih
      cases hr
      have hlength : (turnTokens (.ok tok :: rs)).length = (turnTokens rs).length + 1 := rfl
      rw [hlength]
      exact Nat.lt_of_le_of_lt ih hlt

/-- **What calls hand out** accounts for the text before the place. -/
theorem calls_offset : ∀ (cs : List (Call σ)) (s : Session σ),
    s.scanner.loc.offset + (handedOut (s.calls cs).1).length ≤ (s.calls cs).2.scanner.loc.offset
  | [], _ => Nat.le_refl _
  | c :: cs, s => by
    have ih := calls_offset cs (s.call c).2
    obtain ⟨es, hes, hvis, -⟩ := call_history s c
    have hcall := hes.taken_offset
    have hhanded : (if c.isPeek then [] else (s.call c).1.token?.toList).length ≤ (Scanner.taken es).length := by
      rw [← hvis]
      exact List.length_filter_le _ _
    rw [calls_cons, handedOut_cons, List.length_append]
    simp only at ih ⊢
    omega

end Session

namespace Grammar

theorem Turns.length_le {g : Grammar} {a b : Bool} {s s' : Session Unit} {toks : List Token}
    (h : Turns g a s toks b s') : toks.length ≤ s.scanner.rest.length := by
  induction h with
  | start => exact Nat.zero_le _
  | turn hp hn _ ih =>
    have hlt := Session.next_shorter hn
    rw [prepare_rest hp] at hlt
    rw [List.length_cons]
    omega

/-- **A scan comes to its last turn**, with a token for each turn before it. -/
theorem exists_scan_turns (g : Grammar) (source : Text) (name : String) (all : Bool) :
    ∃ s toks b s' x, g.session source name () = .ok s ∧ Turns g false (if all then s.setSkip .empty else s) toks b s' ∧
      toks.length ≤ source.length ∧ Stopped g b s' toks x ∧ g.scan source name all = x.mapError .syntaxError := by
  obtain ⟨t, ht⟩ := exists_table g
  have hsession := session_eq g source name
  have hscan := scan_eq g source name all
  rw [ht] at hsession hscan
  simp only at hsession hscan
  generalize hs : quiet t source (if all then .empty else .trivia) (.start t source name) = s at hscan
  obtain ⟨toks, b, s', hturns, hstop⟩ := exists_turns g false s
  refine ⟨_, toks, b, s', _, hsession, ?_, ?_, hstop, ?_⟩
  · have hstart : (if all then (quiet t source .trivia (.start t source name)).setSkip .empty
        else quiet t source .trivia (.start t source name)) = s := by
      rw [← hs]
      cases all <;> rfl
    rwa [hstart]
  · have hrest : s.scanner.rest = source := by rw [← hs]; rfl
    exact hrest ▸ hturns.length_le
  · rw [hscan]
    cases scanFrom g false s <;> rfl

end Grammar

namespace Session

variable {σ : Type}

/-- **Every loop ends by consuming the text.**  Let calls of any kind be made on a text, under any table, with
recognisers that may answer anything.  The tokens handed out so far are no more than the bytes before the place, which is
not beyond the text.  From there a step that makes a token gets a byte ahead, at least, and not beyond the text.  So with
as many bytes left, a call for a token ends within one step for each and one more; calls for tokens come to the end or
an error, and an iteration to its last turn, with no more tokens than that in all.  A scan of a text under any grammar
comes to its end or an error within one turn for each byte of the text and one more. -/
theorem scanning_ends (t : Table) (source : Text) (name : String) (o : Options) (memory : σ) (cs : List (Call σ)) :
    let r := (Session.new t source name o memory).calls cs
    let s := r.2
    let left := source.bytes - s.scanner.loc.offset
    (handedOut r.1).length ≤ s.scanner.loc.offset ∧ s.scanner.loc.offset ≤ source.bytes ∧
      (∀ p toks k, Scanner.Steps t p s.scanner toks k → ∀ tok k', k.step t p = .token tok k' →
        k.loc.offset + 1 ≤ k'.loc.offset ∧ k'.loc.offset ≤ source.bytes) ∧
      (∃ n, n ≤ left + 1 ∧ Seeks s n s.seek) ∧
      (s.failure = none → s.next.1 = s.seek.1 ∧ s.peek.1 = s.seek.1) ∧
      (∃ toks s', Pulls s toks s' ∧ toks.length ≤ left ∧
        ((s'.next.1 = .ok none ∧ s.tokens = .ok toks) ∨ ∃ e, s'.next.1 = .error e ∧ s.tokens = .error e)) ∧
      (∃ s', Iterates s s.iterateAll.1 s' ∧ (turnTokens s.iterateAll.1).length ≤ left ∧
        s'.iterate = (none, s.iterateAll.2) ∧ (s'.paused = true ∨ s'.failure.isSome = true ∨ s'.next.1 = .ok none)) ∧
      ∀ g all, ∃ s₀ toks b s' x, g.session source name () = .ok s₀ ∧
        Grammar.Turns g false (if all then s₀.setSkip .empty else s₀) toks b s' ∧
        toks.length + 1 ≤ source.bytes + 1 ∧ Grammar.Stopped g b s' toks x ∧
        Grammar.scan g source name all = x.mapError .syntaxError := by
  intro r s left
  obtain ⟨es, hes, -⟩ : ∃ es, Scanner.History t (.start t source name) es s.scanner ∧ _ :=
    calls_history cs (Session.new t source name o memory)
  have hplaced : Scanner.Placed source name s.scanner := hes.laid.1
  have hleft : s.scanner.rest.length ≤ left := by
    have hadd := hplaced.offset_add
    have hlength := Text.length_le_bytes s.scanner.rest
    omega
  refine ⟨?_, ?_, fun p toks k hsteps tok k' hk => ?_, ?_, fun hf => ?_, ?_, ?_, fun g all => ?_⟩
  · have hoffset := calls_offset cs (Session.new t source name o memory)
    have hstart : (Session.new t source name o memory).scanner.loc.offset = 0 := rfl
    rwa [hstart, Nat.zero_add] at hoffset
  · exact Nat.le.intro hplaced.offset_add
  · obtain ⟨fs, hfs, -⟩ := (hsteps.trans (.cons hk (.nil k'))).history
    have hbehind : Scanner.Placed source name k' := (hes.trans hfs).laid.1
    exact ⟨Scanner.step_token_offset hk, Nat.le.intro hbehind.offset_add⟩
  · obtain ⟨n, hn, hseeks⟩ := exists_seeks s
    exact ⟨n, by omega, hseeks⟩
  · have hnext := (next_of_seek hf).1
    exact ⟨hnext, (peek_answer s).trans hnext⟩
  · obtain ⟨toks, s', hpulls, hlength, hend⟩ := exists_pulls s
    exact ⟨toks, s', hpulls, by omega, hend⟩
  · obtain ⟨s', hiterates, hlast⟩ := exists_iterates s
    have hlength := hiterates.length_le
    refine ⟨s', hiterates, by omega, hlast, ?_⟩
    cases hb : s'.paused || s'.failure.isSome with
    | true => exact (Bool.or_eq_true_iff.1 hb).imp_right .inl
    | false =>
      rw [iterate_of_running hb] at hlast
      refine .inr (.inr ?_)
      rcases hn : s'.next.1 with e | _ | tok
      · rw [hn] at hlast
        cases hlast
      · rfl
      · rw [hn] at hlast
        cases hlast
  · obtain ⟨s₀, toks, b, s', x, hs₀, hturns, hlength, hstop, hscan⟩ := Grammar.exists_scan_turns g source name all
    have hbytes := Text.length_le_bytes source
    exact ⟨s₀, toks, b, s', x, hs₀, hturns, by omega, hstop, hscan⟩

end Session

/-- A rule that takes nothing, one that takes more than there is, and one for blanks. -/
def Sample.blanks : Builder :=
  (Builder.new "DEFAULT")
    |>.rule (RuleSpec.scan "nothing" (fun _ => some 0) .char)
    |>.rule (RuleSpec.scan "beyond" (fun t => some (t.bytes + 1)) .char)
    |>.rule (RuleSpec.literal "blank" " " .whitespace)

def Sample.blankTable : Table := Sample.blanks.build.toOption.getD ⟨⟨0, "DEFAULT", false⟩, [], [], []⟩

/-- Looking ahead has cost nothing. -/
def Sample.twoBlanks : Session Unit := ((Session.new Sample.blankTable "  ".toList "t" {} ()).calls [.peek]).2

/-- Two blanks are hidden, and the third step sees the end. -/
theorem Session.blanks_take_all_steps :
    Sample.blanks.build = .ok Sample.blankTable ∧
      (∃ n, n ≤ 3 ∧ Session.Seeks Sample.twoBlanks n Sample.twoBlanks.seek) ∧
      Session.Seeks Sample.twoBlanks 3 Sample.twoBlanks.seek ∧ Sample.twoBlanks.failure = none ∧
      Sample.twoBlanks.next.1 = Sample.twoBlanks.seek.1 ∧ Sample.twoBlanks.next.1 = .ok none := by
  obtain ⟨-, -, -, hseeks, hcall, -⟩ := scanning_ends Sample.blankTable "  ".toList "t" {} () [.peek]
  refine ⟨rfl, hseeks, ?_, rfl, (hcall rfl).1, by decide⟩
  have hend : Sample.twoBlanks.seek = (.ok none, { Sample.twoBlanks with
      scanner := ⟨[], ⟨2, 1, 3, "t"⟩, Sample.twoBlanks.scanner.stack, [], true⟩ }) := rfl
  rw [hend]
  exact .skip rfl rfl (.skip rfl rfl (.stop rfl fun tok h => by cases h))

end ModalLexer
