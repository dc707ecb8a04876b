import ModalLexer.Grammar.Basic
import ModalLexer.Proofs.Building
import ModalLexer.Proofs.Matching
import ModalLexer.Proofs.Running
/-!
# Comments — what is scanned inside a block comment

Inside a block comment two rules are eligible, in every grammar that comes with the library.  The one for the body takes
any text that ends with something else than a star and nowhere closes the comment; the other takes the stars and the
slash that close it.  Between them they match unless the rest of the text is a run of stars (`Comments.choose?_eq_none`).
So a comment that is not closed is scanned to the run of stars at the end of the text, which is empty if the text ends
otherwise (`Comments.stuck`).
-/
namespace ModalLexer

open Regex (Matches)

/-! ## The two expressions -/

namespace Regex

def stars : Regex := plus true (char '*')

/-- A character of a comment, with the stars before it. -/
def commentUnit : Regex :=
  alt (set (.compl (.single '*'))) (seq stars (set (.compl (.union (.single '*') (.single '/')))))

/-- The same where `e` is what closes a comment behind a star. -/
def unitBefore (e : Char) : Regex :=
  alt (set (.compl (.single '*'))) (seq stars (set (.compl (.union (.single '*') (.single e)))))

def commentBody : Regex := seq (look .textStart) (plus true commentUnit)

def commentClose : Regex := seq (look .textStart) (seq stars (char '/'))

variable {p q : Cursor} {b : Option Char} {c e : Char} {v t : Text}

theorem stars_reads (h : Matches stars p q) : ∃ v, v ≠ [] ∧ (∀ c ∈ v, c = '*') ∧ p.rest = v ++ q.rest := by
  obtain ⟨v, hne, hv, hrest⟩ := plus_set_reads h
  refine ⟨v, hne, ?_, hrest⟩
  intro c hc
  have h := hv c hc
  rw [CharClass.contains_single, decide_eq_true_eq] at h
  exact h.symm

theorem exists_stars (b : Option Char) (hne : v ≠ []) (hv : ∀ c ∈ v, c = '*') :
    ∃ b', Matches stars ⟨b, v ++ t⟩ ⟨b', t⟩ :=
  exists_plus_set b hne fun c hc => by rw [hv c hc, CharClass.contains_single]; rfl

/-- **A unit ends with a character that is no star**, and behind stars not with the one that closes. -/
theorem unitBefore_reads (h : Matches (unitBefore e) p q) :
    ∃ v c, p.rest = v ++ c :: q.rest ∧ (∀ d ∈ v, d = '*') ∧ c ≠ '*' ∧ (v ≠ [] → c ≠ e) := by
  cases h with
  | left h =>
    cases h with
    | @set _ b c t hc =>
      simp only [CharClass.contains, CharClass.contains_single, Bool.not_eq_true', decide_eq_false_iff_not] at hc
      exact ⟨[], c, rfl, by simp, Ne.symm hc, by simp⟩
  | right h =>
    cases h with
    | seq hs hc =>
      obtain ⟨v, -, hv, hrest⟩ := stars_reads hs
      cases hc with
      | @set _ b c t hc =>
        simp only [CharClass.contains, CharClass.contains_single, Bool.not_eq_true', Bool.or_eq_false_iff,
          decide_eq_false_iff_not] at hc
        exact ⟨v, c, hrest, hv, Ne.symm hc.1, fun _ => Ne.symm hc.2⟩

theorem exists_unitBefore (b : Option Char) (hv : ∀ d ∈ v, d = '*') (hc : c ≠ '*') (hs : v ≠ [] → c ≠ e) :
    Matches (unitBefore e) ⟨b, v ++ c :: t⟩ ⟨some c, t⟩ := by
  by_cases hne : v = []
  · subst hne
    refine .left (.set ?_)
    simp [CharClass.contains, Ne.symm hc]
  · obtain ⟨b', h⟩ := exists_stars (t := c :: t) b hne hv
    refine .right (.seq h (.set ?_))
    simp [CharClass.contains, Ne.symm hc, Ne.symm (hs hne)]

theorem commentUnit_reads (h : Matches commentUnit p q) :
    ∃ v c, p.rest = v ++ c :: q.rest ∧ (∀ d ∈ v, d = '*') ∧ c ≠ '*' ∧ (v ≠ [] → c ≠ '/') := unitBefore_reads h

theorem exists_commentUnit (b : Option Char) (hv : ∀ d ∈ v, d = '*') (hc : c ≠ '*') (hs : v ≠ [] → c ≠ '/') :
    Matches commentUnit ⟨b, v ++ c :: t⟩ ⟨some c, t⟩ := exists_unitBefore b hv hc hs

theorem commentUnits_reads (h : Relation.TransGen (Matches commentUnit) p q) :
    ∃ u c, p.rest = u ++ c :: q.rest ∧ c ≠ '*' := by
  induction h using Relation.TransGen.head_induction_on with
  | single h =>
    obtain ⟨v, c, hrest, -, hc, -⟩ := commentUnit_reads h
    exact ⟨v, c, hrest, hc⟩
  | head h _ ih =>
    obtain ⟨v, c, hrest, -, -, -⟩ := commentUnit_reads h
    obtain ⟨u, d, hrest', hd⟩ := ih
    exact ⟨v ++ c :: u, d, by rw [hrest, hrest']; simp, hd⟩

theorem commentBody_reads (h : Matches commentBody p q) : ∃ u c, p.rest = u ++ c :: q.rest ∧ c ≠ '*' := by
  cases h with
  | seq hl h =>
    cases hl
    exact commentUnits_reads (matches_plus_iff.1 h)

theorem commentClose_reads (h : Matches commentClose p q) :
    ∃ v, v ≠ [] ∧ (∀ c ∈ v, c = '*') ∧ p.rest = v ++ '/' :: q.rest := by
  cases h with
  | seq hl h =>
    cases hl
    cases h with
    | seq hs hc =>
      obtain ⟨v, hne, hv, hrest⟩ := stars_reads hs
      cases hc with
      | @set _ b c t hc =>
        rw [CharClass.contains_single, decide_eq_true_eq] at hc
        exact ⟨v, hne, hv, by rw [hrest, hc]⟩

end Regex

namespace Pattern

variable {w t v : Text} {n : Nat} {c : Char}

theorem commentBody_takes (h : (regex w .commentBody).matchLength? t = some n) :
    ∃ u c, t = u ++ c :: t.drop n ∧ c ≠ '*' := by
  obtain ⟨q, hq, hrest⟩ := regex_sound h
  rw [← hrest]
  exact Regex.commentBody_reads hq

theorem commentClose_takes (h : (regex w .commentClose).matchLength? t = some n) :
    ∃ v, v ≠ [] ∧ (∀ c ∈ v, c = '*') ∧ t = v ++ '/' :: t.drop n := by
  obtain ⟨q, hq, hrest⟩ := regex_sound h
  rw [← hrest]
  exact Regex.commentClose_reads hq

theorem exists_commentBody (w t : Text) (hv : ∀ d ∈ v, d = '*') (hc : c ≠ '*') (hs : v ≠ [] → c ≠ '/') :
    ∃ n, (regex w .commentBody).matchLength? (v ++ c :: t) = some n := by
  have h : Matches .commentBody ⟨none, v ++ c :: t⟩ ⟨some c, t⟩ :=
    .seq (.look rfl) (Regex.matches_plus_iff.2 (.single (Regex.exists_commentUnit none hv hc hs)))
  refine exists_regex h fun q hq hrest => ?_
  obtain ⟨u, d, happ, -⟩ := Regex.commentBody_reads hq
  have hlen := congrArg List.length happ
  simp only [hrest, List.length_append, List.length_cons] at hlen
  omega

theorem exists_commentClose (w t : Text) (hne : v ≠ []) (hv : ∀ d ∈ v, d = '*') :
    ∃ n, (regex w .commentClose).matchLength? (v ++ '/' :: t) = some n := by
  obtain ⟨b, hstars⟩ := Regex.exists_stars (t := '/' :: t) none hne hv
  have h : Matches .commentClose ⟨none, v ++ '/' :: t⟩ ⟨some '/', t⟩ :=
    .seq (.look rfl) (.seq hstars (.set (by decide)))
  refine exists_regex h fun q hq hrest => ?_
  obtain ⟨u, -, -, happ⟩ := Regex.commentClose_reads hq
  have hlen := congrArg List.length happ
  simp only [hrest, List.length_append, List.length_cons] at hlen
  omega

end Pattern

/-! ## The state of comments -/

theorem Text.exists_not_star : ∀ t : Text, (∀ c ∈ t, c = '*') ∨
    ∃ v c u, t = v ++ c :: u ∧ (∀ d ∈ v, d = '*') ∧ c ≠ '*'
  | [] => .inl (by simp)
  | c :: t => by
    by_cases hc : c = '*'
    · rcases exists_not_star t with h | ⟨v, d, u, rfl, hv, hd⟩
      · exact .inl (by simpa [hc] using h)
      · exact .inr ⟨c :: v, d, u, rfl, by simpa [hc] using hv, hd⟩
    · exact .inr ⟨[], c, t, rfl, by simp, hc⟩

/-- **A table has block comments in a state**: it is entered by their opening alone, and there are two rules in it. -/
structure Table.Comments (t : Table) (q : State) : Prop where
  plain : q.balanced = false
  inside : ∀ r ∈ t.rules, r.mask.contains q = true → r.unterminated = false ∧
    ((∃ w, r.pattern = .regex w .commentBody) ∧ r.transition = .stay ∨
      (∃ w, r.pattern = .regex w .commentClose) ∧ r.transition = .pop)
  body : ∃ r ∈ t.rules, r.mask.contains q = true ∧ ∃ w, r.pattern = .regex w .commentBody
  close : ∃ r ∈ t.rules, r.mask.contains q = true ∧ ∃ w, r.pattern = .regex w .commentClose
  opened : ∀ r ∈ t.rules, ∀ q', r.transition = .push q' → q'.name = q.name → q' = q ∧ r.pattern = .literal ['/', '*']

namespace Table.Comments

variable {t : Table} {q : State} {p : Policy} {rest : Text} {m : Match}

theorem takes (hT : t.Comments q) (hm : t.choose? p q rest = some m) :
    m.rule.unterminated = false ∧
      (m.rule.transition = .stay ∧ (∃ u c, rest = u ++ c :: rest.drop m.length ∧ c ≠ '*') ∨
        m.rule.transition = .pop ∧ ∃ v, v ≠ [] ∧ (∀ c ∈ v, c = '*') ∧ rest = v ++ '/' :: rest.drop m.length) := by
  obtain ⟨hr, hq, hlen⟩ := choose?_rule hm
  obtain ⟨hu, ⟨⟨w, hp⟩, htr⟩ | ⟨⟨w, hp⟩, htr⟩⟩ := hT.inside _ hr hq
  · rw [hp] at hlen
    exact ⟨hu, .inl ⟨htr, Pattern.commentBody_takes hlen⟩⟩
  · rw [hp] at hlen
    exact ⟨hu, .inr ⟨htr, Pattern.commentClose_takes hlen⟩⟩

/-- **No rule matches in a comment** exactly if nothing but stars is left. -/
theorem choose?_eq_none (hT : t.Comments q) : t.choose? p q rest = none ↔ ∀ c ∈ rest, c = '*' := by
  rw [choose?_eq_none_iff]
  constructor
  · intro h
    rcases Text.exists_not_star rest with hall | ⟨v, c, u, rfl, hv, hc⟩
    · exact hall
    · -- what stands behind the stars is matched by one rule or the other
      exfalso
      by_cases hclose : v ≠ [] ∧ c = '/'
      · obtain ⟨hne, rfl⟩ := hclose
        obtain ⟨r, hr, hq, w, hp⟩ := hT.close
        obtain ⟨n, hn⟩ := Pattern.exists_commentClose w u hne hv
        have hnone := h r hr hq
        rw [hp, hn] at hnone
        cases hnone
      · obtain ⟨r, hr, hq, w, hp⟩ := hT.body
        obtain ⟨n, hn⟩ := Pattern.exists_commentBody w u hv hc fun hne hslash => hclose ⟨hne, hslash⟩
        have hnone := h r hr hq
        rw [hp, hn] at hnone
        cases hnone
  · intro h r hr hq
    cases hm : r.pattern.matchLength? rest with
    | none => rfl
    | some n =>
      obtain ⟨-, ⟨⟨w, hp⟩, -⟩ | ⟨⟨w, hp⟩, -⟩⟩ := hT.inside r hr hq
      · rw [hp] at hm
        obtain ⟨u, c, happ, hc⟩ := Pattern.commentBody_takes hm
        exact absurd (h c (by rw [happ]; simp)) hc
      · rw [hp] at hm
        obtain ⟨v, -, -, happ⟩ := Pattern.commentClose_takes hm
        exact absurd (h '/' (by rw [happ]; simp)) (by decide)

/-- **A comment that is not closed** is scanned up to the stars at the end of the text. -/
theorem stuck (hT : t.Comments q) {k : Scanner} (hk : k.stack.top.state = q) (hopen : ¬['*', '/'] <:+: k.rest) :
    ∃ toks u k', Scanner.Steps t p k toks k' ∧ k'.stack = k.stack ∧ k.rest = u ++ k'.rest ∧
      k'.loc = k.loc.advance u ∧ u.getLast? ≠ some '*' ∧ (∀ c ∈ k'.rest, c = '*') ∧ t.choose? p q k'.rest = none := by
  -- what has been scanned never ends with a star: a body stops behind another character, and an end would hold `*/`
  have hI : ∀ r m, (∃ u, k.rest = u ++ r ∧ u.getLast? ≠ some '*') → t.choose? p q r = some m →
      m.rule.unterminated = false ∧ m.rule.transition = .stay ∧
        ∃ u, k.rest = u ++ r.drop m.length ∧ u.getLast? ≠ some '*' := by
    rintro r m ⟨u, happ, -⟩ hm
    obtain ⟨hu, ⟨htr, u', c, happ', hc⟩ | ⟨-, v, hne, hv, happ'⟩⟩ := hT.takes hm
    · refine ⟨hu, htr, u ++ (u' ++ [c]), ?_, ?_⟩
      · rw [happ]
        conv => lhs; rw [happ']
        simp
      · rw [← List.append_assoc, List.getLast?_concat]
        simpa using hc
    · obtain ⟨v', rfl⟩ : ∃ v', v = v' ++ ['*'] := by
        refine ⟨v.dropLast, ?_⟩
        rw [← hv _ (List.getLast_mem hne), List.dropLast_append_getLast]
      refine absurd ⟨u ++ v', r.drop m.length, ?_⟩ hopen
      rw [happ]
      conv => rhs; rw [happ']
      simp
  obtain ⟨toks, u, k', hsteps, hstack, happ, hloc, ⟨u', happ', hlast⟩, hnone⟩ :=
    Scanner.steps_within hT.plain hI _ k (Nat.lt_succ_self _) hk ⟨[], rfl, by simp⟩
  obtain rfl : u' = u := List.append_cancel_right (happ'.symm.trans happ)
  exact ⟨toks, u', k', hsteps, hstack, happ, hloc, hlast, hT.choose?_eq_none.1 hnone, hnone⟩

end Table.Comments

/-! ## The grammars -/

namespace Grammar

def comment : Grammar → State
  | ecmascript => ⟨3, commentState, false⟩
  | c => ⟨1, commentState, false⟩
  | bnf => ⟨2, commentState, false⟩

def commentBodyText : Text := "(?:[^*]|\\*+[^*/])+".toList

def commentCloseText : Text := "\\*+/".toList

theorem comment_specs (g : Grammar) :
    let states := g.builder.declareNamed.states
    let inside := Builder.specsIn states.1 (states.1 :: states.2) g.builder.rules g.comment
    (∀ d ∈ inside, d.unterminated = false ∧
      (d.shape = .regex ("<COMMENT>".toList ++ commentBodyText) ∧ d.target = .stay ∨
        d.shape = .regex commentCloseText ∧ d.target = .pop)) ∧
    (∃ d ∈ inside, d.shape = .regex ("<COMMENT>".toList ++ commentBodyText)) ∧
    (∃ d ∈ inside, d.shape = .regex commentCloseText) ∧
    (∀ d ∈ g.builder.rules, d.target = .push commentState → d.shape = .literal ['/', '*']) ∧
    (states.1 :: states.2).find? (·.name == commentState) = some g.comment := by
  cases g <;> decide +kernel

theorem commentBody_pattern (g : Grammar) {name : String} {pattern : Pattern} {src : Text}
    (h : Builder.compileShape Regex.ofText? g.builder.fragments name (.regex ("<COMMENT>".toList ++ commentBodyText)) =
      .ok (pattern, src)) : ∃ w, pattern = .regex w .commentBody := by
  have he : g.builder.fragments.expand commentBodyText = .ok commentBodyText := by cases g <;> decide +kernel
  exact ⟨_, Builder.compileShape_regex (by decide +kernel) he (by decide +kernel) h⟩

theorem commentClose_pattern (g : Grammar) {name : String} {pattern : Pattern} {src : Text}
    (h : Builder.compileShape Regex.ofText? g.builder.fragments name (.regex commentCloseText) = .ok (pattern, src)) :
    ∃ w, pattern = .regex w .commentClose := by
  have he : g.builder.fragments.expand commentCloseText = .ok commentCloseText := by cases g <;> decide +kernel
  exact ⟨_, Builder.compileShape_regex (by decide +kernel) he (by decide +kernel) h⟩

theorem table_eq_build (g : Grammar) : g.table = g.builder.build := by cases g <;> rfl

/-- **Every grammar has block comments.** -/
theorem comments {g : Grammar} {t : Table} (ht : g.table = .ok t) : t.Comments g.comment := by
  rw [table_eq_build] at ht
  obtain ⟨hstates, -⟩ := Builder.build_ok ht
  have hinitial : t.initial = g.builder.declareNamed.states.1 := (List.cons.inj hstates).1
  obtain ⟨hinside, ⟨body, hbody, hbodyShape⟩, ⟨close, hclose, hcloseShape⟩, hopened, hfind⟩ := comment_specs g
  rw [← hstates, ← hinitial] at hinside hbody hclose
  refine ⟨by cases g <;> rfl, ?_, ?_, ?_, ?_⟩
  · intro r hr hq
    obtain ⟨d, hd, hc⟩ := Builder.mem_rules_within ht hr hq
    obtain ⟨-, htarget, hshape, -, hu⟩ := Builder.compile_ok hc
    obtain ⟨hu', ⟨hs, htr⟩ | ⟨hs, htr⟩⟩ := hinside d hd
    · rw [hs] at hshape
      rw [htr] at htarget
      exact ⟨hu.trans hu', .inl ⟨commentBody_pattern g hshape, (Except.ok.inj htarget).symm⟩⟩
    · rw [hs] at hshape
      rw [htr] at htarget
      exact ⟨hu.trans hu', .inr ⟨commentClose_pattern g hshape, (Except.ok.inj htarget).symm⟩⟩
  · obtain ⟨r, hr, hq, hc⟩ := Builder.exists_rule_within ht hbody
    obtain ⟨-, -, hshape, -, -⟩ := Builder.compile_ok hc
    rw [hbodyShape] at hshape
    exact ⟨r, hr, hq, commentBody_pattern g hshape⟩
  · obtain ⟨r, hr, hq, hc⟩ := Builder.exists_rule_within ht hclose
    obtain ⟨-, -, hshape, -, -⟩ := Builder.compile_ok hc
    rw [hcloseShape] at hshape
    exact ⟨r, hr, hq, commentClose_pattern g hshape⟩
  · have hname : g.comment.name = commentState := by cases g <;> rfl
    rw [← hstates] at hfind
    rw [hname]
    exact Builder.entered_by_literal ht hopened hfind

end Grammar
end ModalLexer
