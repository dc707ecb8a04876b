import ModalLexer.Proofs.Openers
/-!
# Terminators — a comment ends where it is first closed

What closes a comment is the first star with a slash behind it, or in the comments of EBNF with a parenthesis
(`blockEnd`).  The units of which the text of a comment is made keep that place: a unit ends before it, for a unit that
takes stars takes a character behind them that does not close (`Regex.unitBefore_keeps`).  So whichever way the text is
shared out between the rules for the body and the one for the end, the last of them stands behind that place
(`Comments.closes`), and a comment that one expression takes as a whole ends there too (`Pattern.starComment_takes`).
-/
namespace ModalLexer

open Regex (Matches)

/-- What follows the first star that has `e` behind it, and that `e`. -/
def blockEnd (e : Char) : Text → Option Text
  | [] => none
  | c :: t => if c = '*' ∧ t.head? = some e then some t.tail else blockEnd e t

section

variable {e c : Char} {v t : Text}

theorem blockEnd_of_ne (hc : c ≠ '*') (t : Text) : blockEnd e (c :: t) = blockEnd e t := by
  rw [blockEnd, if_neg fun h => hc h.1]

/-- Stars go on before a character that does not close. -/
theorem blockEnd_stars (hv : ∀ d ∈ v, d = '*') (hc : c ≠ '*') (hs : v ≠ [] → c ≠ e) (he : e ≠ '*') :
    blockEnd e (v ++ c :: t) = blockEnd e t := by
  induction v with
  | nil => exact blockEnd_of_ne hc t
  | cons d v ih =>
    rw [List.cons_append, blockEnd, if_neg, ih (fun d hd => hv d (List.mem_cons_of_mem _ hd)) fun _ => hs (by simp)]
    rintro ⟨-, hhead⟩
    cases v with
    | nil => exact hs (by simp) (Option.some.inj hhead)
    | cons d' v =>
      rw [List.cons_append, List.head?_cons, hv d' (by simp)] at hhead
      exact he (Option.some.inj hhead).symm

theorem blockEnd_close (hne : v ≠ []) (hv : ∀ d ∈ v, d = '*') (he : e ≠ '*') : blockEnd e (v ++ e :: t) = some t := by
  induction v with
  | nil => exact absurd rfl hne
  | cons d v ih =>
    cases v with
    | nil =>
      rw [List.singleton_append, blockEnd, if_pos ⟨hv d (by simp), rfl⟩]
      rfl
    | cons d' v =>
      rw [List.cons_append, blockEnd, if_neg, ih (by simp) fun d hd => hv d (List.mem_cons_of_mem _ hd)]
      rintro ⟨-, hhead⟩
      rw [List.cons_append, List.head?_cons, hv d' (by simp)] at hhead
      exact he (Option.some.inj hhead).symm

theorem blockEnd_only_stars (hv : ∀ d ∈ v, d = '*') (he : e ≠ '*') : blockEnd e v = none := by
  induction v with
  | nil => rfl
  | cons d v ih =>
    rw [blockEnd, if_neg, ih fun d hd => hv d (List.mem_cons_of_mem _ hd)]
    rintro ⟨-, hhead⟩
    obtain ⟨v', rfl⟩ := List.head?_eq_some_iff.1 hhead
    exact he (hv e (by simp))

/-- **A text that is nowhere closed is closed by what follows it.** -/
theorem blockEnd_append (he : e ≠ '*') (hv : ¬['*', e] <:+: v) (t : Text) : blockEnd e (v ++ '*' :: e :: t) = some t := by
  induction v with
  | nil => exact blockEnd_close (v := ['*']) (by simp) (by simp) he
  | cons c v ih =>
    rw [List.cons_append, blockEnd, if_neg, ih fun h => hv (h.trans (List.suffix_cons c v).isInfix)]
    rintro ⟨rfl, hhead⟩
    cases v with
    | nil => exact he (Option.some.inj hhead).symm
    | cons d v =>
      rw [List.cons_append, List.head?_cons, Option.some.injEq] at hhead
      subst hhead
      exact hv ⟨[], v, rfl⟩

end

namespace Regex

variable {e : Char} {p q : Cursor} {t r : Text}

/-- **A unit ends before the place where the comment is closed.** -/
theorem unitBefore_keeps (he : e ≠ '*') (h : Matches (unitBefore e) p q) : blockEnd e p.rest = blockEnd e q.rest := by
  obtain ⟨v, c, hrest, hv, hc, hs⟩ := unitBefore_reads h
  rw [hrest, blockEnd_stars hv hc hs he]

theorem units_keep (he : e ≠ '*') (h : Relation.ReflTransGen (Matches (unitBefore e)) p q) :
    blockEnd e p.rest = blockEnd e q.rest := by
  induction h using Relation.ReflTransGen.head_induction_on with
  | refl => rfl
  | head h _ ih => exact (unitBefore_keeps he h).trans ih

theorem commentBody_keeps (h : Matches commentBody p q) : blockEnd '/' p.rest = blockEnd '/' q.rest := by
  cases h with
  | seq hl h =>
    cases hl
    exact units_keep (e := '/') (by decide) (matches_plus_iff.1 h).to_reflTransGen

/-- **Units lead up to the stars that close a comment.** -/
theorem exists_units (he : e ≠ '*') : ∀ (n : Nat) (t : Text) (b : Option Char), t.length < n → blockEnd e t = some r →
    ∃ b' v, v ≠ [] ∧ (∀ d ∈ v, d = '*') ∧
      Relation.ReflTransGen (Matches (unitBefore e)) ⟨b, t⟩ ⟨b', v ++ e :: r⟩
  | n + 1, t, b, hn, h => by
    rcases Text.exists_not_star t with hall | ⟨v, c, u, rfl, hv, hc⟩
    · rw [blockEnd_only_stars hall he] at h
      cases h
    · by_cases hclose : v ≠ [] ∧ c = e
      · obtain ⟨hne, rfl⟩ := hclose
        rw [blockEnd_close hne hv he, Option.some.injEq] at h
        subst h
        exact ⟨b, v, hne, hv, .refl⟩
      · have hs : v ≠ [] → c ≠ e := fun hne hce => hclose ⟨hne, hce⟩
        rw [blockEnd_stars hv hc hs he] at h
        have hlt : u.length < n := by
          rw [List.length_append, List.length_cons] at hn
          omega
        obtain ⟨b', w, hne, hw, hunits⟩ := exists_units he n u (some c) hlt h
        exact ⟨b', w, hne, hw, .head (exists_unitBefore b hv hc hs) hunits⟩

/-! ## Comments that one expression takes -/

/-- A comment between a parenthesis with a star and a star with a parenthesis. -/
def starComment : Regex :=
  seq (look .textStart) (seq (seq (char '(') (char '*')) (seq (star true (unitBefore ')')) (seq stars (char ')'))))

theorem starComment_reads (h : Matches starComment p q) :
    ∃ t, p.rest = '(' :: '*' :: t ∧ blockEnd ')' t = some q.rest := by
  cases h with
  | seq hl h =>
    cases hl
    cases h with
    | seq ho h =>
      cases ho with
      | seq hparen hstar =>
        cases h with
        | seq hu h =>
          cases h with
          | seq hs hc =>
            refine ⟨_, by rw [char_reads hparen, char_reads hstar], ?_⟩
            obtain ⟨v, hne, hv, hrest⟩ := stars_reads hs
            rw [units_keep (by decide) (matches_star_iff.1 hu), hrest, char_reads hc]
            exact blockEnd_close hne hv (by decide)

theorem exists_starComment (h : blockEnd ')' t = some r) : ∃ q, Matches starComment ⟨none, '(' :: '*' :: t⟩ q := by
  obtain ⟨b, v, hne, hv, hunits⟩ := exists_units (e := ')') (by decide) _ t (some '*') (Nat.lt_succ_self _) h
  obtain ⟨b', hstars⟩ := exists_stars (t := ')' :: r) b hne hv
  exact ⟨⟨some ')', r⟩, .seq (.look rfl) (.seq (.seq (.set (by decide)) (.set (by decide)))
    (.seq (matches_star_iff.2 hunits) (.seq hstars (.set (by decide)))))⟩

end Regex

namespace Pattern

variable {w v r : Text}

/-- **The comment that the expression takes ends where it is first closed.** -/
theorem starComment_takes (w : Text) (hv : ¬['*', ')'] <:+: v) (r : Text) :
    (regex w .starComment).matchLength? ('(' :: '*' :: (v ++ ['*', ')']) ++ r) =
      some ('(' :: '*' :: (v ++ ['*', ')'])).length := by
  have hend : blockEnd ')' (v ++ '*' :: ')' :: r) = some r := blockEnd_append (by decide) hv r
  have happ : '(' :: '*' :: (v ++ ['*', ')']) ++ r = '(' :: '*' :: (v ++ '*' :: ')' :: r) := by simp
  obtain ⟨q, hq⟩ := Regex.exists_starComment hend
  refine regex_of_unique (q := q) (happ ▸ hq) (by simp) fun q hq => ?_
  obtain ⟨t, ht, hstop⟩ := Regex.starComment_reads hq
  obtain rfl : v ++ '*' :: ')' :: r = t := by simpa using happ.symm.trans ht
  rw [hend] at hstop
  exact (Option.some.inj hstop).symm

end Pattern

/-! ## Comments that have a state -/

namespace Table.Comments

variable {t : Table} {q : State} {p : Policy} {rest r : Text} {m : Match}

/-- **A rule that matches in a comment** stands before its end, or leaves the comment there. -/
theorem takes_to_end (hT : t.Comments q) (hm : t.choose? p q rest = some m) (hend : blockEnd '/' rest = some r) :
    m.rule.unterminated = false ∧ (m.rule.transition = .stay ∧ blockEnd '/' (rest.drop m.length) = some r ∨
      m.rule.transition = .pop ∧ rest.drop m.length = r) := by
  obtain ⟨hr, hq, hlen⟩ := choose?_rule hm
  obtain ⟨hu, ⟨⟨w, hp⟩, htr⟩ | ⟨⟨w, hp⟩, htr⟩⟩ := hT.inside _ hr hq
  · rw [hp] at hlen
    obtain ⟨c, hc, hdrop⟩ := Pattern.regex_sound hlen
    rw [← hdrop, ← Regex.commentBody_keeps hc]
    exact ⟨hu, .inl ⟨htr, hend⟩⟩
  · rw [hp] at hlen
    obtain ⟨v, hne, hv, happ⟩ := Pattern.commentClose_takes hlen
    rw [happ, blockEnd_close hne hv (by decide)] at hend
    exact ⟨hu, .inr ⟨htr, Option.some.inj hend⟩⟩

/-- **A comment that is closed is scanned to where it is first closed**, and is left there. -/
theorem closes (hT : t.Comments q) {stack : StateStack} : ∀ (n : Nat) (k : Scanner), k.rest.length < n →
    k.stack.top.state = q → k.stack.pop? = some (q, stack) → blockEnd '/' k.rest = some r →
      ∃ toks k', Scanner.Steps t p k toks k' ∧ k'.rest = r ∧ k'.stack = stack ∧ k'.records = k.records ∧
        ∀ tok ∈ toks, ∃ tr, t.Makes q tr tok
  | n + 1, k, hn, hk, hpop, hend => by
    cases hm : t.choose? p q k.rest with
    | none =>
      rw [blockEnd_only_stars (hT.choose?_eq_none.1 hm) (by decide)] at hend
      cases hend
    | some m =>
      have hmk : t.choose? p k.stack.top.state k.rest = some m := hk ▸ hm
      have hplain : k.stack.top.state.balanced = true → k.kindOf t m ≠ .punctuator := by
        rw [hk, hT.plain]
        exact fun h => absurd h Bool.false_ne_true
      have hmakes (tr : Transition) (h : m.rule.transition = tr) : t.Makes q tr (k.token t m false) :=
        ⟨m.rule, choose?_index hm, (choose?_rule hm).2.1, h, rfl⟩
      obtain ⟨hu, ⟨htr, hstays⟩ | ⟨htr, hleaves⟩⟩ := hT.takes_to_end hm hend
      · have hlt : (k.rest.drop m.length).length < n := by
          have hb := choose?_bounds hm
          rw [List.length_drop]
          omega
        obtain ⟨toks, k', hsteps, hrest, hstack, hrecords, hall⟩ := hT.closes n (k.skipChars m.length) hlt hk hpop hstays
        exact ⟨_, k', .cons (Scanner.step_moves hmk hu hplain (htr ▸ .stay _)) hsteps, hrest, hstack, hrecords,
          List.forall_mem_cons.2 ⟨⟨_, hmakes _ htr⟩, hall⟩⟩
      · have hleave : (k.skipChars m.length).leave = .ok (q, { k.skipChars m.length with stack := stack }) := by
          refine Scanner.leave_eq_ok.2 ⟨stack, hpop, ?_⟩
          rw [hT.plain]
          rfl
        have hmv : Scanner.Moves k.loc m.rule.transition (k.skipChars m.length)
            { k.skipChars m.length with stack := stack } := by
          rw [htr]
          exact .pop hleave
        exact ⟨_, _, .cons (Scanner.step_moves hmk hu hplain hmv) (.nil _), hleaves, rfl, rfl,
          List.forall_mem_singleton.2 ⟨_, hmakes _ htr⟩⟩

end Table.Comments
/-! ## The grammars -/

namespace Grammar

open Scanner (Steps)

variable {g : Grammar} {t : Table} {q : State} {tok : Token} {k : Scanner} {v r : Text}

/-- The states in which a block comment may stand. -/
def commented : Grammar → List State
  | ecmascript => [base, Ecmascript.interpolation, Ecmascript.regexp]
  | c => [base]
  | bnf => [base, Bnf.action]

theorem commented_specs (g : Grammar) :
    (∀ q ∈ g.states, q ∈ g.commented ↔ ∃ d ∈ Builder.specsIn base g.states g.builder.rules q, d.name = "comment-open") ∧
    (∀ q ∈ g.commented, q ∈ g.states ∧
      (⟨⟨q, "comment-open", .comment, .push g.comment⟩, ['/', '*']⟩ : Opener) ∈ g.openers) ∧
    ∀ d ∈ Builder.specsIn base g.states g.builder.rules g.comment, d.kind = .comment := by
  cases g <;> decide +kernel

theorem commented_iff (ht : g.table = .ok t) (hq : q ∈ g.states) :
    q ∈ g.commented ↔ ∃ r ∈ t.rules, r.name = "comment-open" ∧ r.mask.contains q = true := by
  have hb : g.builder.build = .ok t := table_eq_build g ▸ ht
  rw [(commented_specs g).1 q hq]
  constructor
  · rintro ⟨d, hd, hname⟩
    rw [← initial_eq ht, ← states_eq_declared ht] at hd
    obtain ⟨r, hr, hmask, hc⟩ := Builder.exists_rule_within hb hd
    exact ⟨r, hr, (Builder.compile_name hc).trans hname, hmask⟩
  · rintro ⟨r, hr, hname, hmask⟩
    obtain ⟨d, hd, hc⟩ := Builder.mem_rules_within hb hr hmask
    rw [initial_eq ht, states_eq_declared ht] at hd
    exact ⟨d, hd, (Builder.compile_name hc).symm.trans hname⟩

theorem kind_of_comment {tr : Transition} (ht : g.table = .ok t) (h : t.Makes g.comment tr tok) : tok.kind = .comment := by
  obtain ⟨d, hd, -, hkind⟩ := declared_of_makes ht h
  have hcomment := (commented_specs g).2.2 d hd
  rw [hcomment] at hkind
  exact hkind (by decide)

/-- **A comment is scanned from its opening to where it is first closed**, and the stack is then what it was. -/
theorem comment_steps (ht : g.table = .ok t) (hq : k.stack.top.state ∈ g.commented)
    (hr : k.rest = '/' :: '*' :: (v ++ '*' :: '/' :: r)) (hv : ¬['*', '/'] <:+: v) :
    ∃ toks k', Steps t .longest k toks k' ∧ k'.rest = r ∧ k'.stack = k.stack ∧ k'.records = k.records ∧
      ∀ tok ∈ toks, tok.kind = .comment := by
  have hT := comments ht
  obtain ⟨o, hopen, ho, -⟩ := step_opener ht ((commented_specs g).2.1 _ hq).2 rfl hr (.push g.comment _)
  have hbehind : ((k.skipChars 2).enter g.comment k.loc).rest = v ++ '*' :: '/' :: r := by
    show k.rest.drop 2 = _
    rw [hr]
    rfl
  obtain ⟨toks, k', hsteps, hrest, hstack, hrecords, hmakes⟩ := hT.closes (p := .longest) (r := r) _
    ((k.skipChars 2).enter g.comment k.loc) (Nat.lt_succ_self _) rfl rfl
    (hbehind ▸ blockEnd_append (by decide) hv r)
  refine ⟨o :: toks, k', .cons hopen hsteps, hrest, hstack, ?_, List.forall_mem_cons.2 ⟨ho, fun tok htok => ?_⟩⟩
  · rw [hrecords]
    show (if g.comment.balanced then _ else k.records) = k.records
    rw [hT.plain]
    rfl
  · obtain ⟨tr, h⟩ := hmakes tok htok
    exact kind_of_comment ht h

theorem Bnf.starComment_sole : Sole .bnf ⟨base, ['(', '*'], "ebnf-comment"⟩ .comment .starComment where
  mem := by simp [reserved]
  text := by simp
  kind := by decide
  eligible := by decide +kernel
  spec := by decide +kernel

/-- **A closed comment ends at its first terminator.**  In every grammar, wherever the rule that opens a block comment is
eligible, the text from its opening to the first star with a slash behind it is scanned into tokens that are comments,
which spell it.  Behind them the stack and the open brackets are what they were.  Among the rules for a grammar a comment
between a parenthesis with a star and the first star with a parenthesis is one token. -/
theorem comment_ends_at_terminator {g : Grammar} {t : Table} (ht : g.table = .ok t) :
    (∀ q ∈ g.states, q ∈ g.commented ↔ ∃ r ∈ t.rules, r.name = "comment-open" ∧ r.mask.contains q = true) ∧
    (∀ {σ : Type} (s : Session σ) (v r : Text), s.table = t → s.options = ⟨.empty, .longest⟩ → s.failure = none →
      s.scanner.stack.top.state ∈ g.commented → s.scanner.rest = '/' :: '*' :: (v ++ '*' :: '/' :: r) →
      ¬['*', '/'] <:+: v →
      ∃ toks, (∀ tok ∈ toks, tok.kind = .comment) ∧ Token.spell toks = '/' :: '*' :: (v ++ ['*', '/']) ∧
        let c := s.calls (List.replicate toks.length .next)
        handedOut c.1 = toks ∧ c.2.scanner.rest = r ∧ c.2.scanner.stack = s.scanner.stack ∧
          c.2.scanner.records = s.scanner.records) ∧
    (g = .bnf → ∀ {σ : Type} (s : Session σ) (v r : Text), s.table = t → s.options = ⟨.empty, .longest⟩ →
      s.failure = none → s.scanner.stack.top.state = base → s.scanner.rest = '(' :: '*' :: (v ++ '*' :: ')' :: r) →
      ¬['*', ')'] <:+: v →
      ∃ tok s', s.next = (.ok (some tok), s') ∧ tok.kind = .comment ∧ tok.lexeme = '(' :: '*' :: (v ++ ['*', ')']) ∧
        s'.scanner.rest = r ∧ s'.scanner.stack = s.scanner.stack ∧ s'.scanner.records = s.scanner.records) := by
  refine ⟨fun q hq => commented_iff ht hq, ?_, ?_⟩
  · intro σ s v r hs ho hf hq hr hv
    obtain ⟨toks, k, hsteps, hrest, hstack, hrecords, hkinds⟩ := comment_steps ht hq hr hv
    obtain ⟨hout, hscanner⟩ := Session.calls_of_steps hsteps s hs ho rfl hf
    refine ⟨toks, hkinds, ?_, hout, ?_⟩
    · have happ := hsteps.spell.1
      have hsplit : '/' :: '*' :: (v ++ '*' :: '/' :: r) = '/' :: '*' :: (v ++ ['*', '/']) ++ r := by simp
      rw [hr, hrest, hsplit] at happ
      exact (List.append_cancel_right happ).symm
    · rw [hscanner]
      exact ⟨hrest, hstack, hrecords⟩
  · rintro rfl σ s v r hs ho hf hq hr hv
    have hwhole : s.scanner.rest = '(' :: '*' :: (v ++ ['*', ')']) ++ r := hr.trans (by simp)
    have htakes (w : Text) := Pattern.starComment_takes w hv r
    obtain ⟨tok, hstep, hkind, hlex, -, hrest⟩ :=
      step_sole ht Bnf.starComment_sole (List.prefix_append ['(', '*'] _) htakes hq hwhole
    have hnext := Session.next_of_token hf (by rw [hs, ho]; exact hstep) (by rw [ho]; exact KindSet.contains_empty _)
    refine ⟨tok, _, hnext, hkind, hlex, ?_, ?_, ?_⟩
    · rw [Session.notify_scanner]
      exact hrest
    · rw [Session.notify_scanner]
      rfl
    · rw [Session.notify_scanner]
      rfl

/-- Stars and slashes within a comment, and a comment of EBNF that ends with two stars. -/
theorem stars_and_slashes_commented :
    ∃ t, bnfTable = .ok t ∧
      (∃ toks, (∀ tok ∈ toks, tok.kind = .comment) ∧ Token.spell toks = "/*/ **/".toList ∧
        let c := (Session.new t "/*/ **/*/".toList "t" ⟨.empty, .longest⟩ ()).calls (List.replicate toks.length .next)
        handedOut c.1 = toks ∧ c.2.scanner.rest = "*/".toList) ∧
      ∃ tok s', (Session.new t "(*)**)*)".toList "t" ⟨.empty, .longest⟩ ()).next = (.ok (some tok), s') ∧
        tok.kind = .comment ∧ tok.lexeme = "(*)**)".toList := by
  obtain ⟨t, ht, -⟩ := exists_ok_of_any (beginnings_decided .bnf)
  have hbase : t.initial = base := initial_eq ht
  obtain ⟨-, hblock, hstar⟩ := comment_ends_at_terminator ht
  obtain ⟨toks, hkinds, hspell, hout, hrest, -⟩ :=
    hblock (Session.new t "/*/ **/*/".toList "t" ⟨.empty, .longest⟩ ()) "/ *".toList "*/".toList rfl rfl rfl
      (by show t.initial ∈ _; rw [hbase]; decide) rfl (by decide)
  obtain ⟨tok, s', hnext, hkind, hlex, -⟩ :=
    hstar rfl (Session.new t "(*)**)*)".toList "t" ⟨.empty, .longest⟩ ()) ")*".toList "*)".toList rfl rfl rfl hbase rfl
      (by decide)
  exact ⟨t, ht, ⟨toks, hkinds, hspell, hout, hrest⟩, tok, s', hnext, hkind, hlex⟩

end Grammar
end ModalLexer
