import ModalLexer.Proofs.Shapes
/-!
# Agreement — when a scan is the plain run of a session

A scan differs from a run of the same session by what it does before its turns: where no operand has ended it looks
ahead, and enters the state of regular expressions if it sees a slash.  Looking ahead answers what the next call for a
token answers, an error included, and leaves no trace.  So a turn before which no slash is seen, or an operand has ended,
is a call for a token (`scanFrom_of_no_slash`), and if that holds of every turn, the scan is the run
(`scanFrom_eq_tokens`).  Which turns these are can be told from the tokens of the run (`scan_agrees_with_tokenize`).
-/
namespace ModalLexer
namespace Grammar

/-- Whether every slash follows a token that ends an operand.  For a slash that stands first, `a` tells. -/
def slashesDivide : (a : Bool) → List Token → Bool
  | _, [] => true
  | a, tok :: toks => (a || !isSlash tok) && slashesDivide (endsOperand tok) toks

theorem slashesDivide_iff : ∀ {a : Bool} {toks : List Token}, slashesDivide a toks = true ↔
    ∀ before tok after, toks = before ++ tok :: after → isSlash tok = true →
      (before.getLast?.map endsOperand).getD a = true
  | a, [] => by simp [slashesDivide]
  | a, tok :: toks => by
    rw [slashesDivide, Bool.and_eq_true, slashesDivide_iff]
    constructor
    · rintro ⟨hfirst, hrest⟩ before tok' after hs hslash
      cases before with
      | nil =>
        obtain ⟨rfl, rfl⟩ := List.cons.inj hs
        simpa [hslash] using hfirst
      | cons u before =>
        obtain ⟨rfl, htail⟩ := List.cons.inj hs
        rw [getLast?_cons_getD]
        exact hrest before tok' after htail hslash
    · intro h
      refine ⟨?_, fun before tok' after hs hslash => ?_⟩
      · cases hslash : isSlash tok with
        | false => simp
        | true => simpa using h [] tok toks rfl hslash
      · rw [← getLast?_cons_getD]
        exact h (tok :: before) tok' after (by rw [hs]; rfl) hslash

variable {g : Grammar} {a : Bool} {s s₁ : Session Unit} {tok : Token}

/-- **A turn of a scan before which no slash is seen**, or an operand has ended, is a call for a token. -/
theorem scanFrom_of_no_slash (h : g = .ecmascript → ∀ tok, s.next.1 = .ok (some tok) → (a || !isSlash tok) = true) :
    scanFrom g a s = turn g a s := by
  have hpeek : s.peek = (s.next.1, s) := Prod.ext (Session.peek_answer s) (Session.peek_session s)
  rw [scanFrom_eq, prepare, hpeek]
  by_cases hp : g = .ecmascript ∧ (!a) = true
  · obtain ⟨hg, ha⟩ := hp
    rw [if_pos ⟨hg, ha⟩]
    obtain rfl : a = false := by simpa using ha
    rcases hn : s.next with ⟨e | _ | tok, s₁⟩
    · rw [turn, hn]
    · rfl
    · have hslash : isSlash tok = false := by simpa using h hg tok (by rw [hn])
      simp only [hslash, Bool.false_eq_true, if_false]
  · rw [if_neg hp]

/-- What a call hands out is not hidden. -/
theorem visible_of_next (h : s.next = (.ok (some tok), s₁)) : s.options.skip.contains tok.kind = false := by
  cases hf : s.failure with
  | some e =>
    rw [Session.next_of_failure hf] at h
    cases h
  | none =>
    obtain ⟨us, k, -, -, hshown, hnext⟩ := Session.next_steps hf
    rw [hnext] at h
    cases hk : k.step s.table s.options.policy with
    | token tok' k' =>
      obtain rfl : tok' = tok := by simpa [hk] using congrArg Prod.fst h
      exact hshown _ _ hk
    | finish k' => simp [hk] at h
    | fail e k' => simp [hk] at h

/-- **A scan is the run of its session** if every slash in the run follows the end of an operand. -/
theorem scanFrom_eq_tokens {a : Bool} {s : Session Unit} (hskip : s.options.skip = .trivia)
    (h : g = .ecmascript → slashesDivide a s.run.1 = true) : scanFrom g a s = s.tokens := by
  have hrun := Session.run_eq s
  have hturn : scanFrom g a s = turn g a s := by
    refine scanFrom_of_no_slash fun hg tok hn => ?_
    have hdivide := h hg
    rcases hs : s.next with ⟨r, s₁⟩
    obtain rfl : r = .ok (some tok) := by rw [← hn, hs]
    rw [hrun, hs, slashesDivide, Bool.and_eq_true] at hdivide
    exact hdivide.1
  rw [hturn, turn, Session.tokens_of_next]
  rcases hn : s.next with ⟨e | _ | tok, s₁⟩
  · rfl
  · rfl
  · have hs₁ : s₁.options.skip = .trivia := by
      have hkeeps := (Session.next_keeps s).2.1
      rw [hn] at hkeeps
      rw [hkeeps, hskip]
    have hoperand : operandAfter a tok = endsOperand tok := by
      have hvis := visible_of_next hn
      rw [hskip] at hvis
      rw [operandAfter, hvis, if_neg Bool.false_ne_true]
    have hrest : g = .ecmascript → slashesDivide (operandAfter a tok) s₁.run.1 = true := by
      intro hg
      have hdivide := h hg
      rw [hrun, hn, slashesDivide, Bool.and_eq_true] at hdivide
      rw [hoperand]
      exact hdivide.2
    simp only [scanFrom_eq_tokens hs₁ hrest]
termination_by s.scanner.rest.length
decreasing_by exact Session.next_shorter hn

/-- **A scan agrees with plain tokenizing** away from regular expressions.  Whatever the text, a scan that hides trivia
comes to the same tokens or to the same error as tokenizing the text, under C and BNF always, and under ECMAScript
wherever, among the tokens that the run of the session hands out up to its end or its error, every slash stands right
behind a token that ends an operand. -/
theorem scan_agrees_with_tokenize (g : Grammar) (source : Text) (name : String) :
    ∃ s, g.session source name () = .ok s ∧
      ((g = .ecmascript → ∀ before tok after, s.run.1 = before ++ tok :: after → isSlash tok = true →
          ∃ u, before.getLast? = some u ∧ endsOperand u = true) →
        g.scan source name false = g.tokenize source name) := by
  obtain ⟨t, ht⟩ := exists_table g
  refine ⟨quiet t source .trivia (.start t source name), by rw [session_eq, ht], fun h => ?_⟩
  have hdivide : g = .ecmascript →
      slashesDivide false (quiet t source .trivia (.start t source name)).run.1 = true := by
    intro hg
    refine slashesDivide_iff.2 fun before tok after hs hslash => ?_
    obtain ⟨u, hu, hended⟩ := h hg before tok after hs hslash
    rw [hu, Option.map_some, Option.getD_some, hended]
  have hscan : scanFrom g false (quiet t source .trivia (.start t source name)) = _ :=
    scanFrom_eq_tokens rfl hdivide
  rw [scan_eq, tokenize, session_eq, ht]
  cases htokens : (quiet t source .trivia (.start t source name)).tokens with
  | error e => simp only [Bool.false_eq_true, if_false, hscan, htokens]
  | ok toks => simp only [Bool.false_eq_true, if_false, hscan, htokens]

/-- A division behind a name.  No slash begins a regular expression, and the scan is the plain run. -/
theorem division_scanned_plainly :
    let text := "a /b".toList
    (scan .ecmascript text "t" false).toOption.map (·.map (·.kind)) = some [.identifier, .punctuator, .identifier] ∧
      scan .ecmascript text "t" false = tokenize .ecmascript text "t" := by
  intro text
  have hrun : ((session .ecmascript text "t" ()).toOption.any fun s => slashesDivide false s.run.1) = true ∧
      ((tokenize .ecmascript text "t").toOption.map (·.map (·.kind))) =
        some [.identifier, .punctuator, .identifier] := by decide +kernel
  obtain ⟨hany, hkinds⟩ := hrun
  obtain ⟨s, hs, hagree⟩ := scan_agrees_with_tokenize .ecmascript text "t"
  rw [hs] at hany
  have hplain : scan .ecmascript text "t" false = tokenize .ecmascript text "t" := by
    refine hagree fun _ before tok after hsplit hslash => ?_
    have hended := slashesDivide_iff.1 hany before tok after hsplit hslash
    cases hlast : before.getLast? with
    | none => rw [hlast] at hended; cases hended
    | some u => rw [hlast] at hended; exact ⟨u, rfl, hended⟩
  exact ⟨by rw [hplain]; exact hkinds, hplain⟩

end Grammar
end ModalLexer
