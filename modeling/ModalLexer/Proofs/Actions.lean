import ModalLexer.Proofs.Pairs
import ModalLexer.Proofs.Shapes
/-!
# Actions — code embedded in a grammar

Code is embedded in a grammar of grammars as an action, between braces, or as a prologue, between `%{` and `%}`.  Both are
the state `ACTION`, and either terminator leaves it, whichever opened it.  So openers and terminators are in pairs, but
not each with its own (`terminators_mixed`).  The brace is a terminator only where no bracket of the code is open, while
`%}` does not ask for brackets (`actions_terminate`).
-/
namespace ModalLexer
namespace Grammar
namespace Bnf

/-- A token that opens an action or a prologue. -/
def OpensAction (t : Table) (tok : Token) : Prop :=
  tok.kind = .interpolationStart ∨ tok.kind = .directive ∧ t.nameOf? tok = some "prologue-open"

/-- A token that terminates an action or a prologue. -/
def ClosesAction (t : Table) (tok : Token) : Prop :=
  tok.kind = .interpolationEnd ∨ tok.kind = .directive ∧ t.nameOf? tok = some "prologue-close"

/-- What a terminator is to the code before it, up to the opener. -/
structure Terminates (t : Table) (code : List Token) (c : Token) : Prop where
  apart : ∀ tok ∈ code, ¬OpensAction t tok ∧ ¬ClosesAction t tok
  brace : c.kind = .interpolationEnd → c.lexeme = ['\x7d'] ∧ Nested (code.flatMap Token.letters)
  percent : c.kind ≠ .interpolationEnd → ∃ w, Nested (code.flatMap Token.letters ++ w)

variable {t : Table} {q q' : State} {r : Transition} {us toks : List Token} {v w : BracketWord}
  {tok o c : Token}

/-! ## The tokens of the grammar -/

theorem movers_action : ∀ m ∈ movers .bnf,
    (m.kind = .interpolationStart ∨ m.kind = .directive ∧ m.rule = "prologue-open" ↔ m.transition = .push action) ∧
      (m.kind = .interpolationEnd ∨ m.kind = .directive ∧ m.rule = "prologue-close" ↔
        m.state = action ∧ m.transition = .pop) := by
  decide

/-- **A token opens and terminates by what its rule does to the stack.** -/
theorem action_iff (ht : bnfTable = .ok t) (hq : q ∈ states .bnf) (h : t.Makes q r tok) :
    (OpensAction t tok ↔ r = .push action) ∧ (ClosesAction t tok ↔ q = action ∧ r = .pop) := by
  by_cases hstay : r = .stay
  · subst hstay
    have hplain := (made (g := .bnf) ht hq h).1 rfl
    have hopen : t.nameOf? tok ≠ some "prologue-open" :=
      hplain.name ⟨base, "prologue-open", .directive, .push action⟩ (by decide)
    have hclose : t.nameOf? tok ≠ some "prologue-close" :=
      hplain.name ⟨action, "prologue-close", .directive, .pop⟩ (by decide)
    simp [OpensAction, ClosesAction, hplain.start, hplain.ending, hopen, hclose]
  · obtain ⟨m, hm, rfl, rfl, hname, hkind⟩ := (made (g := .bnf) ht hq h).2 hstay
    simp only [OpensAction, ClosesAction, hname, hkind, Option.some.injEq]
    exact movers_action m hm

theorem leaves_iff (ht : bnfTable = .ok t) (hq : q ∈ states .bnf) (h : t.Leaves q w c) :
    ¬OpensAction t c ∧ (ClosesAction t c ↔ q = action) := by
  cases h with
  | rule h =>
    obtain ⟨hopens, hcloses⟩ := action_iff ht hq h
    simp [hopens, hcloses]
  | brace h =>
    have hbalanced : ∀ q ∈ states .bnf, q.balanced = true → q = action := by decide
    have hopens : ¬OpensAction t c := by simp [OpensAction, h.kind]
    exact ⟨hopens, fun _ => hbalanced q hq h.balanced, fun _ => .inl h.kind⟩

/-- **What stands before a terminator**, by the way in which it leaves the state. -/
theorem terminates (ht : bnfTable = .ok t) (hcode : ∀ tok ∈ us, ¬OpensAction t tok ∧ ¬ClosesAction t tok)
    (hw : us.flatMap Token.letters = w) (h : t.Leaves action w c) : Terminates t us c := by
  refine ⟨hcode, ?_, ?_⟩
  · intro hk
    cases h with
    | rule h =>
      have hmoves : Transition.pop ≠ .stay := by simp
      obtain ⟨m, hm, -, -, -, hkind⟩ := (made (g := .bnf) ht (by decide) h).2 hmoves
      exact absurd (hkind.symm.trans hk) (mover_kind .bnf m hm).2.2.1
    | brace h hnested =>
      rw [hw]
      exact ⟨h.lexeme, hnested⟩
  · intro hk
    cases h with
    | rule _ hopen =>
      rw [hw]
      exact hopen rfl
    | brace h => exact absurd h.kind hk

theorem comment_phrase (ht : bnfTable = .ok t) (h : Phrase t (drives .bnf false) (comment .bnf) us w) :
    (∀ tok ∈ us, ¬OpensAction t tok ∧ ¬ClosesAction t tok) ∧ us.flatMap Token.letters = [] := by
  generalize hq : comment .bnf = q at h
  induction h with
  | nil => exact ⟨by simp, rfl⟩
  | stay hm _ ih =>
    subst hq
    obtain ⟨hcode, hw⟩ := ih rfl
    obtain ⟨hopens, hcloses⟩ := action_iff ht (by decide) hm
    have hplain := (made (g := .bnf) ht (by decide) hm).1 rfl
    refine ⟨List.forall_mem_cons.2 ⟨by simp [hopens, hcloses], hcode⟩, ?_⟩
    rw [List.flatMap_cons, hw, hplain.letters (by decide), List.nil_append]
  | block ho =>
    subst hq
    cases (mem_entered (g := .bnf) ht (by decide) ho).1
  | driven hd => cases hd.2.1

/-- A comment opens and terminates nothing, and there are no brackets in it. -/
theorem comment_block (ht : bnfTable = .ok t) (hq : q ∈ states .bnf) (ho : t.Makes q (.push (comment .bnf)) o)
    (hi : Phrase t (drives .bnf false) (comment .bnf) us v) (hc : t.Leaves (comment .bnf) v c) :
    (∀ tok ∈ o :: us ++ [c], ¬OpensAction t tok ∧ ¬ClosesAction t tok) ∧ (o :: us ++ [c]).flatMap Token.letters = [] := by
  have hne : comment .bnf ≠ action := by decide
  have hq' : comment .bnf ∈ states .bnf := by decide
  obtain ⟨hinner, hw⟩ := comment_phrase ht hi
  obtain ⟨hopens, hcloses⟩ := action_iff ht hq ho
  obtain ⟨hopens', hcloses'⟩ := leaves_iff ht hq' hc
  constructor
  · refine List.forall_mem_append.2 ⟨List.forall_mem_cons.2 ⟨?_, hinner⟩, List.forall_mem_singleton.2 ?_⟩
    · simp [hopens, hcloses, hne]
    · simp [hopens', hcloses', hne]
  · have hletters := (mem_entered (g := .bnf) ht hq ho).2.2
    have hletters' := leaves_letters (g := .bnf) ht hq' hc
    simp [hletters, hw, hletters']

/-- In code nothing is opened or terminated, since only comments are entered from there. -/
theorem code_phrase (ht : bnfTable = .ok t) (h : Phrase t (drives .bnf false) action us w) :
    (∀ tok ∈ us, ¬OpensAction t tok ∧ ¬ClosesAction t tok) ∧ us.flatMap Token.letters = w := by
  generalize hq : action = q at h
  induction h with
  | nil => exact ⟨by simp, rfl⟩
  | stay hm _ ih =>
    subst hq
    obtain ⟨hcode, hw⟩ := ih rfl
    obtain ⟨hopens, hcloses⟩ := action_iff ht (by decide) hm
    refine ⟨List.forall_mem_cons.2 ⟨by simp [hopens, hcloses], hcode⟩, ?_⟩
    rw [List.flatMap_cons, hw]
  | @block q q' o c us toks v w ho hi hc _ _ ih =>
    subst hq
    obtain ⟨hcode, hw⟩ := ih rfl
    obtain ⟨hentered, -, hletters⟩ := mem_entered (g := .bnf) ht (by decide) ho
    obtain rfl : q' = comment .bnf := List.mem_singleton.1 hentered
    obtain ⟨hcomment, hnone⟩ := comment_block ht (by decide) ho hi hc
    have hsplit : o :: us ++ c :: toks = (o :: us ++ [c]) ++ toks := by simp
    rw [hsplit, List.flatMap_append, hnone, hw, hletters]
    exact ⟨List.forall_mem_append.2 ⟨hcomment, hcode⟩, rfl⟩
  | driven hd => cases hd.2.1

/-- **Openers and terminators are in pairs** in what is read at the bottom: each block there is a comment, or code between
an opener and a terminator. -/
theorem matched_phrase (ht : bnfTable = .ok t) (h : Phrase t (drives .bnf false) base us w) :
    Matched (OpensAction t) (ClosesAction t) (fun _ => Terminates t) us := by
  generalize hq : base = q at h
  induction h with
  | nil => exact .of_none (by simp)
  | stay hm _ ih =>
    subst hq
    obtain ⟨hopens, hcloses⟩ := action_iff ht (by decide) hm
    exact (Matched.single (by simp [hopens]) (by simp [hcloses])).append (ih rfl)
  | @block q q' o c us toks v w ho hi hc _ _ ih =>
    subst hq
    have hblock : Matched (OpensAction t) (ClosesAction t) (fun _ => Terminates t) (o :: us ++ [c]) := by
      have hentered := (mem_entered (g := .bnf) ht (by decide) ho).1
      have habove : entered .bnf base = [comment .bnf, action, action] := by decide
      simp only [habove, List.mem_cons, List.not_mem_nil, or_false, or_self] at hentered
      rcases hentered with rfl | rfl
      · exact .of_none (comment_block ht (by decide) ho hi hc).1
      · obtain ⟨hopens, hcloses⟩ := action_iff ht (by decide) ho
        obtain ⟨hopens', hcloses'⟩ := leaves_iff ht (by decide) hc
        obtain ⟨hcode, hw⟩ := code_phrase ht hi
        have hnone : Matched (OpensAction t) (ClosesAction t) (fun _ => Terminates t) us := .of_none hcode
        exact hnone.enclose (hopens.2 rfl) (by simp [hcloses]) (hcloses'.2 rfl) hopens' (terminates ht hcode hw hc)
    have happ := hblock.append (ih rfl)
    rwa [List.append_assoc, List.singleton_append] at happ
  | driven hd => cases hd.2.1

/-! ## The tokens that are handed out -/

/-- What is hidden as trivia is no bracket. -/
theorem letters_filter (p : Token → Bool) (h : ∀ tok, p tok = false → tok.letters = []) (toks : List Token) :
    (toks.filter p).flatMap Token.letters = toks.flatMap Token.letters := by
  induction toks with
  | nil => rfl
  | cons tok toks ih =>
    cases hp : p tok with
    | true => rw [List.filter_cons_of_pos hp, List.flatMap_cons, List.flatMap_cons, ih]
    | false => rw [List.filter_cons_of_neg (by simp [hp]), List.flatMap_cons, h tok hp, ih, List.nil_append]

theorem Terminates.filter (h : Terminates t us c) {p : Token → Bool} (hp : ∀ tok, p tok = false → tok.letters = []) :
    Terminates t (us.filter p) c := by
  refine ⟨fun tok htok => h.apart tok (List.mem_filter.1 htok).1, ?_, ?_⟩
  · rw [letters_filter p hp]
    exact h.brace
  · rw [letters_filter p hp]
    exact h.percent

end Bnf

open Bnf (OpensAction ClosesAction Terminates)

/-- **Actions and prologues are terminated.**  In what a grammar of grammars makes of a text it reads to its end, openers
and terminators are in pairs, with neither between the two.  Where the terminator is a brace, the brackets between match;
where it is `%}`, some may be open. -/
theorem actions_terminate (source : Text) (name : String) :
    ∃ t, bnfTable = .ok t ∧ ∀ toks, tokenize .bnf source name = .ok toks →
      Matched (OpensAction t) (ClosesAction t) (fun _ => Terminates t) toks := by
  obtain ⟨t, ht⟩ := exists_table .bnf
  refine ⟨t, ht, fun toks htoks => ?_⟩
  obtain ⟨hnone, rfl⟩ : (quiet t source .trivia (.start t source name)).run.2.1 = none ∧
      (quiet t source .trivia (.start t source name)).run.1 = toks := by
    rw [tokenize_eq (g := .bnf) ht] at htoks
    generalize (quiet t source .trivia (.start t source name)).run = r at htoks
    obtain ⟨us, _ | e, s⟩ := r <;> cases htoks
    exact ⟨rfl, rfl⟩
  obtain ⟨us, w, hw, hvis⟩ := Session.run_phrase (s := quiet t source .trivia (.start t source name)) rfl rfl hnone
    (drives .bnf false)
  have hinitial : (quiet t source .trivia (.start t source name)).table.initial = base := initial_eq (g := .bnf) ht
  rw [hinitial] at hw
  have hmatched := Bnf.matched_phrase ht hw
  rw [hvis]
  -- openers, terminators and brackets are not hidden
  have hseen : ∀ kind ∈ [Kind.interpolationStart, .interpolationEnd, .directive, .punctuator],
      (!KindSet.trivia.contains kind) = true := by decide
  refine hmatched.filter _ ?_ ?_ fun _ _ _ hterm => hterm.filter ?_
  · rintro tok (hk | ⟨hk, -⟩) <;> exact hseen _ (by simp [hk])
  · rintro tok (hk | ⟨hk, -⟩) <;> exact hseen _ (by simp [hk])
  · intro tok hhidden
    refine Scanner.letters_of_other fun ho => ?_
    have hkind := hseen tok.kind (by simp [ho.1])
    rw [quiet, hkind] at hhidden
    cases hhidden

/-- Brackets in an action, a comment hidden in it, and a prologue: two pairs. -/
theorem action_and_prologue :
    ∃ t toks, bnfTable = .ok t ∧ tokenize .bnf "\x7b[/*\x7d*/]\x7d%\x7b(%\x7d".toList "t" = .ok toks ∧
      toks.map (·.kind) = [.interpolationStart, .punctuator, .punctuator, .interpolationEnd, .directive, .punctuator,
        .directive] ∧
      Matched (OpensAction t) (ClosesAction t) (fun _ => Terminates t) toks := by
  have hany : ((tokenize .bnf "\x7b[/*\x7d*/]\x7d%\x7b(%\x7d".toList "t").toOption.any fun toks =>
      decide (toks.map (·.kind) = [.interpolationStart, .punctuator, .punctuator, .interpolationEnd, .directive,
        .punctuator, .directive])) = true := by decide +kernel
  obtain ⟨t, ht, hmatched⟩ := actions_terminate "\x7b[/*\x7d*/]\x7d%\x7b(%\x7d".toList "t"
  obtain ⟨toks, htoks, hkinds⟩ := exists_ok_of_any hany
  exact ⟨t, toks, ht, htoks, of_decide_eq_true hkinds, hmatched toks htoks⟩

/-- **Openers and terminators are not told apart.**  An action may be terminated by `%}`, a prologue by a brace, and where
`%}` terminates a bracket may be open. -/
theorem terminators_mixed :
    (∃ toks, tokenize .bnf "\x7b%\x7d".toList "t" = .ok toks ∧
      toks.map (fun tok => (tok.kind, tok.lexeme)) = [(.interpolationStart, ['\x7b']), (.directive, ['%', '\x7d'])] ∧
      ¬Matched (·.kind = .interpolationStart) (·.kind = .interpolationEnd) (fun _ _ _ => True) toks) ∧
    (∃ toks, tokenize .bnf "%\x7b\x7d".toList "t" = .ok toks ∧
      toks.map (fun tok => (tok.kind, tok.lexeme)) = [(.directive, ['%', '\x7b']), (.interpolationEnd, ['\x7d'])] ∧
      ¬Matched (·.kind = .interpolationStart) (·.kind = .interpolationEnd) (fun _ _ _ => True) toks) ∧
    ∃ toks, tokenize .bnf "%\x7b(%\x7d".toList "t" = .ok toks ∧
      toks.map (fun tok => (tok.kind, tok.lexeme)) =
        [(.directive, ['%', '\x7b']), (.punctuator, ['(']), (.directive, ['%', '\x7d'])] ∧
      ¬Nested (toks.flatMap Token.letters) := by
  have hread : ∀ p ∈ [("\x7b%\x7d", [(Kind.interpolationStart, ['\x7b']), (.directive, ['%', '\x7d'])]),
      ("%\x7b\x7d", [(.directive, ['%', '\x7b']), (.interpolationEnd, ['\x7d'])]),
      ("%\x7b(%\x7d", [(.directive, ['%', '\x7b']), (.punctuator, ['(']), (.directive, ['%', '\x7d'])])],
      ((tokenize .bnf p.1.toList "t").toOption.any fun toks =>
        decide (toks.map (fun tok => (tok.kind, tok.lexeme)) = p.2)) = true := by decide +kernel
  simp only [List.forall_mem_cons] at hread
  obtain ⟨haction, hprologue, hbracket, -⟩ := hread
  have hunmatched {toks : List Token} {l : List (Kind × Text)}
      (hmap : toks.map (fun tok => (tok.kind, tok.lexeme)) = l)
      (hl : ¬((∃ p ∈ l, p.1 = .interpolationStart) ↔ ∃ p ∈ l, p.1 = .interpolationEnd)) :
      ¬Matched (·.kind = .interpolationStart) (·.kind = .interpolationEnd) (fun _ _ _ => True) toks := by
    subst hmap
    intro hmatched
    refine hl ?_
    simpa using hmatched.exists_iff
  refine ⟨?_, ?_, ?_⟩
  · obtain ⟨toks, htoks, hmap⟩ := exists_ok_of_any haction
    have hmap := of_decide_eq_true hmap
    exact ⟨toks, htoks, hmap, hunmatched hmap (by decide)⟩
  · obtain ⟨toks, htoks, hmap⟩ := exists_ok_of_any hprologue
    have hmap := of_decide_eq_true hmap
    exact ⟨toks, htoks, hmap, hunmatched hmap (by decide)⟩
  · obtain ⟨toks, htoks, hmap⟩ := exists_ok_of_any hbracket
    refine ⟨toks, htoks, of_decide_eq_true hmap, fun hnested => ?_⟩
    simp only [decide_eq_true_eq, List.map_eq_cons_iff, List.map_eq_nil_iff, Prod.mk.injEq] at hmap
    obtain ⟨o, _, rfl, ⟨ho, -⟩, b, _, rfl, ⟨hb, hlexeme⟩, c, _, rfl, ⟨hc, -⟩, rfl⟩ := hmap
    have hopen : Brackets.isOpener '(' = true := by decide
    have hword : [o, b, c].flatMap Token.letters = [('(', b.loc)] := by
      simp [Token.letters, Brackets.letters, ho, hb, hlexeme, hc, hopen]
    rw [hword] at hnested
    have hread := hnested.read []
    rw [Brackets.read_cons, Brackets.readBracket_opener [] hopen] at hread
    cases hread

end Grammar
end ModalLexer
