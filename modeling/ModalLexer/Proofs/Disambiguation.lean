import ModalLexer.Proofs.Building
import ModalLexer.Proofs.ScanAll
/-!
# Disambiguation — when a slash divides

The turns of a scan are strung together in `Turns`.  Between two of them the scanner stands among code, or in a comment
there if trivia are shown, and the state of regular expressions is not entered (`Between`): a turn enters it only where
a slash comes next and no operand has ended, and then hands out the regular expression and leaves it, or fails.  So a
turn that hands out a regular expression follows no operand, and one that hands out a slash follows one
(`turn_keeps`).  What ended last is told by the last token that is not trivia (`Turns.operand`).
-/
namespace ModalLexer
namespace Grammar

open Scanner (Skips Stops Beside InCode)

/-- The turns of a scan, each with the token it hands out. -/
inductive Turns (g : Grammar) : Bool → Session Unit → List Token → Bool → Session Unit → Prop
  | start (a : Bool) (s : Session Unit) : Turns g a s [] a s
  | turn {a b : Bool} {s s₁ s₂ s' : Session Unit} {tok : Token} {toks : List Token} (hp : prepare g a s = .ok s₁)
      (hn : s₁.next = (.ok (some tok), s₂)) (h : Turns g (operandAfter a tok) s₂ toks b s') :
      Turns g a s (tok :: toks) b s'

/-- The last token that is not trivia. -/
def lastVisible (toks : List Token) : Option Token := (hideTrivia toks).getLast?

/-- The stack between two turns: states of code, and a comment above them at most if trivia are shown. -/
def Between (skip : KindSet) (k : StateStack) : Prop :=
  ∃ base j loc, InCode Ecmascript.codeStates base ∧ Beside Ecmascript.comment Ecmascript.regexp loc base k j ∧
    (skip = .trivia → k = base)

/-! ## Kinds of rules -/

theorem states_eq {t : Table} (h : ecmascriptTable = .ok t) :
    t.states = Ecmascript.codeStates ++ [Ecmascript.comment, Ecmascript.regexp] := by
  have hstates : Ecmascript.builder.declareNamed.states =
      (⟨0, "DEFAULT", false⟩, Ecmascript.codeStates.tail ++ [Ecmascript.comment, Ecmascript.regexp]) := by
    decide +kernel
  rw [(Builder.build_ok h).1, hstates]
  rfl

/-- **Regular expressions are made in their own state**, and nothing else is made there but trivia. -/
theorem kind_of_state {t : Table} (h : ecmascriptTable = .ok t) {r : Rule} (hr : r ∈ t.rules) {q : State}
    (hq : r.mask.contains q = true) :
    (q ∈ Ecmascript.comment :: Ecmascript.codeStates → r.kind ≠ .regexp) ∧
      (q = Ecmascript.regexp → r.kind.isTrivia = true ∨ r.kind = .regexp) := by
  obtain ⟨d, hd, hc⟩ := Builder.mem_rules_within h hr hq
  have hstates := states_eq h
  have hinitial : t.initial = ⟨0, "DEFAULT", false⟩ := (List.cons.inj hstates).1
  obtain ⟨-, -, -, hkind, -⟩ := Builder.compile_ok hc
  rw [hstates, hinitial] at hd
  rw [hkind]
  have hcode : ∀ q ∈ Ecmascript.comment :: Ecmascript.codeStates, ∀ d ∈ Builder.specsIn ⟨0, "DEFAULT", false⟩
      (Ecmascript.codeStates ++ [Ecmascript.comment, Ecmascript.regexp]) Ecmascript.builder.rules q,
      d.kind ≠ .regexp := by decide +kernel
  have hregexp : ∀ d ∈ Builder.specsIn ⟨0, "DEFAULT", false⟩
      (Ecmascript.codeStates ++ [Ecmascript.comment, Ecmascript.regexp]) Ecmascript.builder.rules Ecmascript.regexp,
      d.kind.isTrivia = true ∨ d.kind = .regexp := by decide +kernel
  refine ⟨fun hm => hcode q hm d hd, ?_⟩
  rintro rfl
  exact hregexp d hd

section

variable {t : Table} {source : Text} {skip : KindSet} {k k' k₂ : Scanner} {tok : Token} {toks : List Token} {a : Bool}

theorem classify_eq_regexp {r : Rule} {lexeme : Text} (h : t.classify r lexeme = .regexp) : r.kind = .regexp := by
  unfold Table.classify at h
  split at h
  · cases h
  · exact h

theorem classify_of_regexp {r : Rule} (lexeme : Text) (h : r.kind = .regexp) : t.classify r lexeme = .regexp := by
  unfold Table.classify
  rw [if_neg (by simp [h]), h]

theorem step_code_kind (ht : ecmascriptTable = .ok t)
    (hq : k.stack.top.state ∈ Ecmascript.comment :: Ecmascript.codeStates)
    (h : k.step t .longest = .token tok k') : tok.kind ≠ .regexp := by
  obtain ⟨m, ends, records, hm, -, -, rfl, -⟩ := Scanner.step_token_iff.1 h
  obtain ⟨hr, hmask, -⟩ := Table.choose?_rule hm
  intro hkind
  cases ends with
  | true => cases hkind
  | false => exact (kind_of_state ht hr hmask).1 hq (classify_eq_regexp hkind)

theorem step_regexp_kind (ht : ecmascriptTable = .ok t) (hq : k.stack.top.state = Ecmascript.regexp)
    (h : k.step t .longest = .token tok k') (hvis : tok.kind.isTrivia = false) : tok.kind = .regexp := by
  obtain ⟨m, ends, records, hm, -, hb, rfl, -⟩ := Scanner.step_token_iff.1 h
  obtain ⟨hr, hmask, -⟩ := Table.choose?_rule hm
  rw [Scanner.balance_of_other fun ho => by rw [hq] at ho; exact Bool.false_ne_true ho.2.2.1] at hb
  cases hb
  have hrule : m.rule.kind.isTrivia = false := (t.classify_isTrivia m.rule _).symm.trans hvis
  rcases (kind_of_state ht hr hmask).2 hq with htrivia | hkind
  · rw [hrule] at htrivia
    cases htrivia
  · exact classify_of_regexp _ hkind

/-- What comes next behind what is hidden.  Where trivia are shown, that is the next step. -/
theorem exists_reaches (t : Table) (source : Text) (k : Scanner) (hskip : skip = .trivia ∨ skip = .empty) :
    ∃ toks k', Skips t .longest k toks k' ∧ Reaches t source skip k k' ∧
      (skip = .trivia ∧ Stops t .longest k' ∨ skip = .empty ∧ k' = k) := by
  rcases hskip with rfl | rfl
  · obtain ⟨toks, k', hsk, hst⟩ := Scanner.exists_skips t .longest _ k (Nat.lt_succ_self _)
    exact ⟨toks, k', hsk, reaches_of_skips hsk hst, .inl ⟨rfl, hst⟩⟩
  · exact ⟨[], k, .nil k, reaches_self t source k, .inr ⟨rfl, rfl⟩⟩

theorem between_code {j : StateStack} (h : InCode Ecmascript.codeStates j) : Between skip j :=
  ⟨j, j.push Ecmascript.regexp (.start ""), .start "", h, .code, fun _ => rfl⟩

/-- **Between two turns the state of regular expressions is not entered.** -/
theorem Between.no_regexp {j : StateStack} (h : Between skip j) : ∀ f ∈ j.frames, f.state.name ≠ Ecmascript.regexpState := by
  obtain ⟨base, j', loc, hc, hb, -⟩ := h
  have hcode : ∀ q ∈ Ecmascript.codeStates, q.name ≠ Ecmascript.regexpState := by decide
  cases hb with
  | code => exact fun f hf => hcode _ (hc f hf)
  | comment l =>
    intro f hf
    rcases List.mem_cons.1 hf with rfl | hf
    · show Ecmascript.comment.name ≠ Ecmascript.regexpState
      decide
    · exact hcode _ (hc f hf)

/-- **A step that is taken as it comes** leads from between two turns to between two turns, and what is visible comes
from code. -/
theorem Between.step (hT : t.Separates Ecmascript.codeStates Ecmascript.comment Ecmascript.regexp)
    (hb : Between skip k.stack) (hsk : Skips t .longest k toks k')
    (hend : skip = .trivia ∧ Stops t .longest k' ∨ skip = .empty ∧ k' = k)
    (h : k'.step t .longest = .token tok k₂) :
    Between skip k₂.stack ∧ (tok.kind.isTrivia = false → InCode Ecmascript.codeStates k'.stack) := by
  obtain ⟨base, j, loc, hc, hbeside, htrivia⟩ := hb
  rcases hend with ⟨rfl, hst⟩ | ⟨rfl, rfl⟩
  · have hvis := hst tok k₂ h
    rw [← htrivia rfl] at hc
    obtain ⟨hstack, -⟩ := stack_of_skips hT hc hsk h hvis
    rw [← hstack] at hc
    exact ⟨between_code (InCode.step hT hc h hvis), fun _ => hc⟩
  · cases hkind : tok.kind.isTrivia with
    | true =>
      obtain ⟨tok', j', -, -, -, hb'⟩ := hbeside.step hT (hc _ List.mem_cons_self) h hkind
      exact ⟨⟨base, j', loc, hc, hb', fun h => absurd h (by decide)⟩, fun h => by cases h⟩
    | false =>
      obtain ⟨hstack, -⟩ := hbeside.visible hT h hkind
      rw [← hstack] at hc
      exact ⟨between_code (InCode.step hT hc h hkind), fun _ => hc⟩

theorem reaches_pushed (hT : t.Separates Ecmascript.codeStates Ecmascript.comment Ecmascript.regexp)
    (hb : Between skip k.stack) (hsk : Skips t .longest k toks k')
    (hend : skip = .trivia ∧ Stops t .longest k' ∨ skip = .empty ∧ k' = k)
    (h : k'.step t .longest = .token tok k₂) (hvis : tok.kind.isTrivia = false)
    (hst : Stops t .longest { k' with stack := k'.stack.push Ecmascript.regexp k.loc }) :
    Reaches t source skip { k with stack := k.stack.push Ecmascript.regexp k.loc }
      { k' with stack := k'.stack.push Ecmascript.regexp k.loc } := by
  rcases hend with ⟨rfl, -⟩ | ⟨rfl, rfl⟩
  · obtain ⟨base, j, loc, hc, -, htrivia⟩ := hb
    rw [← htrivia rfl] at hc
    obtain ⟨-, toks', hsk'⟩ := stack_of_skips hT hc hsk h hvis
    exact reaches_of_skips hsk' hst
  · exact reaches_self t source _

/-! ## One turn -/

variable {s₁ s₂ : Session Unit}

theorem next_token_of_reaches (h : Reaches t source skip k k')
    (hn : (quiet t source skip k).next = (.ok (some tok), s₂)) :
    ∃ k₂, k'.step t .longest = .token tok k₂ ∧ s₂ = quiet t source skip k₂ := by
  rw [next_of_reaches h] at hn
  cases hk : k'.step t .longest with
  | fail e k₂ => rw [hk] at hn; cases hn
  | finish k₂ => rw [hk] at hn; cases hn
  | token tok' k₂ =>
    rw [hk] at hn
    cases hn
    exact ⟨k₂, rfl, rfl⟩

/-- **How a session is prepared for a turn**: it is left alone, or a slash comes next, no operand has ended, and the
state of regular expressions is entered. -/
theorem prepare_cases (hT : t.Separates Ecmascript.codeStates Ecmascript.comment Ecmascript.regexp)
    (h : Reaches t source skip k k') (hp : prepare .ecmascript a (quiet t source skip k) = .ok s₁) :
    (s₁ = quiet t source skip k ∧ ∀ tok k₂, k'.step t .longest = .token tok k₂ → isSlash tok = true → a = true) ∨
    (a = false ∧ s₁ = quiet t source skip { k with stack := k.stack.push Ecmascript.regexp k.loc } ∧
      ∃ tok k₂, k'.step t .longest = .token tok k₂ ∧ isSlash tok = true) := by
  cases a with
  | true =>
    simp only [prepare, Bool.not_true, Bool.false_eq_true, and_false, if_false, Except.ok.injEq] at hp
    exact .inl ⟨hp.symm, fun _ _ _ _ => rfl⟩
  | false =>
    -- looking ahead gives the answer of the next call and leaves the session as it is
    have hpeek : (quiet t source skip k).peek = ((quiet t source skip k).next.1, quiet t source skip k) :=
      Prod.ext (Session.peek_answer _) (Session.peek_session _)
    rw [next_of_reaches h] at hpeek
    simp only [prepare, Bool.not_false, and_self, if_true, hpeek] at hp
    cases hk : k'.step t .longest with
    | fail e k₂ => simp [hk] at hp
    | finish k₂ =>
      simp only [hk, Except.ok.injEq] at hp
      exact .inl ⟨hp.symm, fun tok k₂ h => by cases h⟩
    | token tok k₂ =>
      simp only [hk] at hp
      cases hslash : isSlash tok with
      | true =>
        simp only [hslash, if_true, pushState_regexp hT, Except.ok.injEq] at hp
        exact .inr ⟨rfl, hp.symm, tok, k₂, rfl, hslash⟩
      | false =>
        simp only [hslash, Bool.false_eq_true, if_false, Except.ok.injEq] at hp
        refine .inl ⟨hp.symm, ?_⟩
        intro tok' k₂' h' hslash'
        cases h'
        rw [hslash] at hslash'
        cases hslash'

/-- **One turn of a scan** stays between turns.  It hands out a regular expression only where no operand has ended, and
a slash only where one has. -/
theorem turn_keeps (ht : ecmascriptTable = .ok t) (hskip : skip = .trivia ∨ skip = .empty) (hb : Between skip k.stack)
    (hp : prepare .ecmascript a (quiet t source skip k) = .ok s₁) (hn : s₁.next = (.ok (some tok), s₂)) :
    ∃ k₂, s₂ = quiet t source skip k₂ ∧ Between skip k₂.stack ∧ (tok.kind = .regexp → a = false) ∧
      (isSlash tok = true → a = true) := by
  have hT := Ecmascript.separates ht
  obtain ⟨toks, k', hsk, hreach, hend⟩ := exists_reaches t source k hskip
  rcases prepare_cases hT hreach hp with ⟨rfl, hslash⟩ | ⟨rfl, rfl, tok₁, k₁, hk', hslash⟩
  · obtain ⟨k₂, hk₂, rfl⟩ := next_token_of_reaches hreach hn
    obtain ⟨hb₂, hcode⟩ := hb.step hT hsk hend hk₂
    refine ⟨k₂, rfl, hb₂, ?_, hslash tok k₂ hk₂⟩
    intro hkind
    have htop := hcode (by rw [hkind]; decide) _ List.mem_cons_self
    exact absurd hkind (step_code_kind ht (List.mem_cons_of_mem _ htop) hk₂)
  · -- the slash is read again in the state of regular expressions
    have hvis : tok₁.kind.isTrivia = false := by
      rw [(isSlash_iff.1 hslash).1]
      decide
    obtain ⟨-, hcode⟩ := hb.step hT hsk hend hk'
    have hc := hcode hvis
    rcases Scanner.regexp_step hT (hc _ List.mem_cons_self) hk' hslash with ⟨e, he⟩ | ⟨tok', k₃, h₃, hvis', hk₃⟩
    · have hreach' : Reaches t source skip _ _ := reaches_pushed hT hb hsk hend hk' hvis (stops_of_fail (he k.loc))
      obtain ⟨k₂, hk₂, -⟩ := next_token_of_reaches hreach' hn
      rw [he] at hk₂
      cases hk₂
    · have hreach' : Reaches t source skip _ _ :=
        reaches_pushed hT hb hsk hend hk' hvis (stops_of_token (h₃ k.loc) hvis')
      obtain ⟨k₂, hk₂, rfl⟩ := next_token_of_reaches hreach' hn
      rw [h₃] at hk₂
      cases hk₂
      have hkind := step_regexp_kind ht rfl (h₃ k.loc) hvis'
      refine ⟨k₃, rfl, between_code (hk₃ ▸ hc), fun _ => rfl, ?_⟩
      intro hslash'
      rw [(isSlash_iff.1 hslash').1] at hkind
      cases hkind

/-! ## All turns -/

theorem Turns.between (ht : ecmascriptTable = .ok t) (hskip : skip = .trivia ∨ skip = .empty) {b : Bool}
    {s s' : Session Unit} (h : Turns .ecmascript a s toks b s') :
    ∀ k, s = quiet t source skip k → Between skip k.stack →
      ∃ k', s' = quiet t source skip k' ∧ Between skip k'.stack := by
  induction h with
  | start a s => exact fun k hs hb => ⟨k, hs, hb⟩
  | turn hp hn _ ih =>
    rintro k rfl hb
    obtain ⟨k₂, rfl, hb₂, -, -⟩ := turn_keeps ht hskip hb hp hn
    exact ih k₂ rfl hb₂

theorem Turns.split {g : Grammar} {b : Bool} {s' : Session Unit} {after : List Token} :
    ∀ (before : List Token) {a : Bool} {s : Session Unit}, Turns g a s (before ++ after) b s' →
      ∃ c s₁, Turns g a s before c s₁ ∧ Turns g c s₁ after b s'
  | [], a, s, h => ⟨a, s, .start a s, h⟩
  | tok :: before, a, s, .turn hp hn h => by
    obtain ⟨c, s₁, h₁, h₂⟩ := Turns.split before h
    exact ⟨c, s₁, .turn hp hn h₁, h₂⟩

theorem getLast?_cons_getD {α β : Type} (f : α → β) (x : α) (xs : List α) (b : β) :
    ((x :: xs).getLast?.map f).getD b = (xs.getLast?.map f).getD (f x) := by
  rw [List.getLast?_cons, Option.map_some, Option.getD_some]
  cases xs.getLast? <;> rfl

/-- **Whether an operand has ended** is told by the last token that is not trivia. -/
theorem Turns.operand {g : Grammar} {b : Bool} {s s' : Session Unit} (h : Turns g a s toks b s') :
    b = ((lastVisible toks).map endsOperand).getD a := by
  induction h with
  | start a s => rfl
  | @turn a b s s₁ s₂ s' tok toks _ _ _ ih =>
    rw [ih]
    unfold lastVisible hideTrivia operandAfter
    cases hk : KindSet.trivia.contains tok.kind with
    | true => simp [hk]
    | false =>
      simp only [hk, List.filter_cons, Bool.not_false, if_true, Bool.false_eq_true, if_false]
      exact (getLast?_cons_getD ..).symm

theorem turns_of_scanWithin {g : Grammar} : ∀ (n : Nat) (a : Bool) (s : Session Unit) (toks : List Token),
    scanWithin g n a s = .ok toks → ∃ b s', Turns g a s toks b s'
  | 0, a, s, toks, h => by
    cases h
    exact ⟨a, s, .start a s⟩
  | n + 1, a, s, toks, h => by
    rw [scanWithin] at h
    cases hp : prepare g a s with
    | error e => rw [hp] at h; cases h
    | ok s₁ =>
      rw [hp] at h
      simp only [bind, Except.bind] at h
      rcases hn : s₁.next with ⟨_ | _ | tok, s₂⟩
      · rw [hn] at h
        cases h
      · rw [hn] at h
        cases h
        exact ⟨a, s, .start a s⟩
      · simp only [hn] at h
        cases hs : scanWithin g n (operandAfter a tok) s₂ with
        | error e => rw [hs] at h; cases h
        | ok us =>
          rw [hs] at h
          cases h
          obtain ⟨b, s', hturns⟩ := turns_of_scanWithin n _ s₂ us hs
          exact ⟨b, s', .turn hp hn hturns⟩

theorem Turns.split_turn (ht : ecmascriptTable = .ok t) (hskip : skip = .trivia ∨ skip = .empty)
    {before after : List Token} {b : Bool} {s' : Session Unit} (hb : Between skip k.stack)
    (h : Turns .ecmascript false (quiet t source skip k) (before ++ tok :: after) b s') :
    (tok.kind = .regexp → ((lastVisible before).map endsOperand).getD false = false) ∧
      (isSlash tok = true → ((lastVisible before).map endsOperand).getD false = true) := by
  obtain ⟨c, s₁, hbefore, hturn⟩ := Turns.split before h
  obtain ⟨k₁, rfl, hb₁⟩ := hbefore.between ht hskip k rfl hb
  rw [← hbefore.operand]
  cases hturn with
  | turn hp hn _ =>
    obtain ⟨-, -, -, hkeeps⟩ := turn_keeps ht hskip hb₁ hp hn
    exact hkeeps

end

/-- The session a scan begins with.  The grammar is not named here, or else its table would be built to check the
proof. -/
theorem exists_start {g : Grammar} {source : Text} {name : String} {all : Bool} {s : Session Unit} (hg : g = .ecmascript)
    (h : session g source name () = .ok s) :
    ∃ t, ecmascriptTable = .ok t ∧ (if all then s.setSkip .empty else s) =
        quiet t source (if all then .empty else .trivia) (.start t source name) ∧
      Between (if all then .empty else .trivia) (Scanner.start t source name).stack := by
  rw [session_eq] at h
  cases ht : g.table with
  | error e =>
    rw [ht] at h
    cases h
  | ok t =>
    simp only [ht, Except.ok.injEq] at h
    rw [hg] at ht
    refine ⟨t, ht, ?_, between_code ?_⟩
    · subst h
      cases all <;> rfl
    · intro f hf
      rw [List.mem_singleton.1 hf]
      exact (Ecmascript.separates ht).initial

theorem turns_of_scan {g : Grammar} {source : Text} {name : String} {all : Bool} {toks : List Token}
    (h : scan g source name all = .ok toks) :
    ∃ s b s', session g source name () = .ok s ∧ Turns g false (if all then s.setSkip .empty else s) toks b s' := by
  unfold scan at h
  cases hs : session g source name () with
  | error e =>
    rw [hs] at h
    cases h
  | ok s =>
    simp only [hs] at h
    cases hw : scanWithin g (source.length + 1) false (if all then s.setSkip .empty else s) with
    | error e =>
      rw [hw] at h
      cases h
    | ok toks' =>
      rw [hw] at h
      cases h
      obtain ⟨b, s', hturns⟩ := turns_of_scanWithin _ _ _ _ hw
      exact ⟨s, b, s', rfl, hturns⟩

/-- **Slashes are told apart by what precedes them.**  In the tokens of a scan, whether it shows trivia or not, no
operand ends right before a regular expression, and one does right before a slash that divides.  Wherever a scan turns
to its next token, whatever comes of it, the state of regular expressions is not entered. -/
theorem slashes_told_apart (source : Text) (name : String) (all : Bool) :
    (∀ toks, scan .ecmascript source name all = .ok toks →
      ∀ before tok after, toks = before ++ tok :: after →
        (tok.kind = .regexp → ∀ u, lastVisible before = some u → endsOperand u = false) ∧
        (isSlash tok = true → ∃ u, lastVisible before = some u ∧ endsOperand u = true)) ∧
    (∀ s, session .ecmascript source name () = .ok s →
      ∀ toks a s', Turns .ecmascript false (if all then s.setSkip .empty else s) toks a s' →
        ∀ f ∈ s'.scanner.stack.frames, f.state.name ≠ Ecmascript.regexpState) := by
  have hskip : (if all then KindSet.empty else KindSet.trivia) = .trivia ∨
      (if all then KindSet.empty else KindSet.trivia) = .empty := by cases all <;> simp
  constructor
  · rintro toks hscan before tok after rfl
    obtain ⟨s, b, s', hs, hturns⟩ := turns_of_scan hscan
    obtain ⟨t, ht, hstart, hb⟩ := exists_start rfl hs
    rw [hstart] at hturns
    obtain ⟨hregexp, hslash⟩ := hturns.split_turn ht hskip hb
    constructor
    · intro hkind u hu
      simpa [hu] using hregexp hkind
    · intro h
      have hended := hslash h
      cases hl : lastVisible before with
      | none => simp [hl] at hended
      | some u => exact ⟨u, rfl, by simpa [hl] using hended⟩
  · intro s hs toks a s' hturns
    obtain ⟨t, ht, hstart, hb⟩ := exists_start rfl hs
    rw [hstart] at hturns
    obtain ⟨k, rfl, hb'⟩ := hturns.between ht hskip _ rfl hb
    exact hb'.no_regexp

/-- A name, a slash that divides it and, behind that, a regular expression. -/
theorem divided_by_regexp :
    ∃ toks s b s', scan .ecmascript "a / /b/".toList "t" true = .ok toks ∧
      toks.map (·.kind) = [.identifier, .whitespace, .punctuator, .whitespace, .regexp] ∧
      (∃ u, lastVisible (toks.take 2) = some u ∧ endsOperand u = true) ∧
      (∀ u, lastVisible (toks.take 4) = some u → endsOperand u = false) ∧
      session .ecmascript "a / /b/".toList "t" () = .ok s ∧ Turns .ecmascript false (s.setSkip .empty) toks b s' ∧
      ∀ f ∈ s'.scanner.stack.frames, f.state.name ≠ Ecmascript.regexpState := by
  have hany : ((scan .ecmascript "a / /b/".toList "t" true).toOption.any fun toks =>
      decide (toks.map (·.kind) = [.identifier, .whitespace, .punctuator, .whitespace, .regexp]) &&
        (toks.drop 2).head?.any isSlash) = true := by decide +kernel
  cases hscan : scan .ecmascript "a / /b/".toList "t" true with
  | error e =>
    rw [hscan] at hany
    cases hany
  | ok toks =>
    rw [hscan] at hany
    simp only [Except.toOption, Option.any_some, Bool.and_eq_true, decide_eq_true_eq] at hany
    obtain ⟨hkinds, hslash⟩ := hany
    have htoks := hkinds
    simp only [List.map_eq_cons_iff, List.map_eq_nil_iff] at htoks
    obtain ⟨t₁, _, rfl, -, t₂, _, rfl, -, t₃, _, rfl, -, t₄, _, rfl, -, t₅, _, rfl, hregexp, rfl⟩ := htoks
    obtain ⟨happart, hheads⟩ := slashes_told_apart "a / /b/".toList "t" true
    obtain ⟨s, b, s', hs, hturns⟩ := turns_of_scan hscan
    refine ⟨_, s, b, s', rfl, hkinds, ?_, ?_, hs, hturns, ?_⟩
    · exact (happart _ hscan [t₁, t₂] t₃ [t₄, t₅] rfl).2 hslash
    · exact (happart _ hscan [t₁, t₂, t₃, t₄] t₅ [] rfl).1 hregexp
    · exact hheads s hs _ b s' hturns

end Grammar
end ModalLexer
