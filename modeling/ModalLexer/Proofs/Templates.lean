import ModalLexer.Proofs.Comments
/-!
# Templates — what is scanned inside a template literal

The text of a template goes on up to an unescaped backtick or an unescaped dollar sign with a brace behind it; a backslash
escapes whatever follows it (`templateStop`).  The rules for text keep that place (`Templates.takes`), and together with
those that close the template and open a substitution they match everywhere but at a backslash that ends the text
(`Templates.choose?_eq_none`).  So a template that is not closed is scanned to its end, or to such a backslash
(`Templates.stuck`).
-/
namespace ModalLexer

open Regex (Matches)

/-- What is left of the text of a template at the first place where it does not go on: an unescaped backtick, an unescaped
dollar sign before a brace, a backslash with nothing behind it, or the end. -/
def templateStop : Text → Text
  | [] => []
  | c :: t =>
    if c = '\\' then match t with
      | [] => [c]
      | _ :: u => templateStop u
    else if c = '\x60' ∨ c = '$' ∧ t.head? = some '\x7b' then c :: t
    else templateStop t

theorem templateStop_escape (c : Char) (t : Text) : templateStop ('\\' :: c :: t) = templateStop t := by
  rw [templateStop, if_pos rfl]

theorem templateStop_cons {c : Char} (hb : c ≠ '\\') (t : Text) :
    templateStop (c :: t) = if c = '\x60' ∨ c = '$' ∧ t.head? = some '\x7b' then c :: t else templateStop t := by
  cases t <;> simp [templateStop, hb]

theorem templateStop_other {c : Char} {t : Text} (hb : c ≠ '\\') (ht : c ≠ '\x60') (hd : c = '$' → t.head? ≠ some '\x7b') :
    templateStop (c :: t) = templateStop t := by
  rw [templateStop_cons hb, if_neg]
  rintro (h | ⟨h, h'⟩)
  · exact ht h
  · exact hd h h'

/-! ## The expression -/

namespace Regex

def anyChar : Regex := set (.union .space (.compl .space))

def escape : Regex := seq (char '\\') anyChar

/-- A character of a template, an escape, or a dollar sign with either behind it. -/
def templateUnit : Regex :=
  alt (set (.compl (.unions [.single '\x60', .single '\\', .single '$'])))
    (alt escape (seq (char '$')
      (alt (set (.compl (.unions [.single '\x7b', .single '\x60', .single '\\', .single '$']))) escape)))

def templateText : Regex := seq (look .textStart) (plus true templateUnit)

variable {p q : Cursor} {c : Char} {t : Text}

theorem escape_reads (h : Matches escape p q) : ∃ c, p.rest = '\\' :: c :: q.rest := by
  cases h with
  | seq hb hc =>
    cases hc with
    | @set _ b c t _ => exact ⟨c, char_reads hb⟩

/-- **A unit keeps the place where the text stops**, and is more than a backslash. -/
theorem templateUnit_reads (h : Matches templateUnit p q) :
    templateStop p.rest = templateStop q.rest ∧ q.rest.length < p.rest.length ∧ p.rest ≠ ['\\'] := by
  cases h with
  | left h =>
    cases h with
    | @set _ b c t hc =>
      simp only [CharClass.contains, CharClass.unions, CharClass.contains_single, Bool.not_eq_true',
        Bool.or_eq_false_iff, decide_eq_false_iff_not] at hc
      obtain ⟨ht, hb, hd⟩ := hc
      exact ⟨templateStop_other (Ne.symm hb) (Ne.symm ht) fun h => absurd h.symm hd, by simp, by simp [Ne.symm hb]⟩
  | right h =>
    cases h with
    | left h =>
      obtain ⟨c, hrest⟩ := escape_reads h
      rw [hrest]
      have hlen : q.rest.length < ('\\' :: c :: q.rest).length := by
        rw [List.length_cons, List.length_cons]
        omega
      exact ⟨templateStop_escape c _, hlen, by simp⟩
    | right h =>
      cases h with
      | seq hd h =>
        have hrest := char_reads hd
        rw [hrest]
        cases h with
        | left h =>
          cases h with
          | @set _ b c t hc =>
            simp only [CharClass.contains, CharClass.unions, CharClass.contains_single, Bool.not_eq_true',
              Bool.or_eq_false_iff, decide_eq_false_iff_not] at hc
            obtain ⟨ho, ht, hb, hd⟩ := hc
            have hdollar : templateStop ('$' :: c :: t) = templateStop (c :: t) :=
              templateStop_other (by decide) (by decide) fun _ => by simpa using Ne.symm ho
            have hchar : templateStop (c :: t) = templateStop t :=
              templateStop_other (Ne.symm hb) (Ne.symm ht) fun h => absurd h.symm hd
            have hlen : t.length < ('$' :: c :: t).length := by
              rw [List.length_cons, List.length_cons]
              omega
            exact ⟨hdollar.trans hchar, hlen, by simp⟩
        | right h =>
          obtain ⟨c, hrest'⟩ := escape_reads h
          rw [hrest']
          have hdollar : templateStop ('$' :: '\\' :: c :: q.rest) = templateStop ('\\' :: c :: q.rest) :=
            templateStop_other (by decide) (by decide) fun _ => by simp
          have hlen : q.rest.length < ('$' :: '\\' :: c :: q.rest).length := by
            rw [List.length_cons, List.length_cons, List.length_cons]
            omega
          exact ⟨hdollar.trans (templateStop_escape c _), hlen, by simp⟩

theorem templateUnits_reads (h : Relation.TransGen (Matches templateUnit) p q) :
    templateStop p.rest = templateStop q.rest ∧ q.rest.length < p.rest.length ∧ p.rest ≠ ['\\'] := by
  induction h using Relation.TransGen.head_induction_on with
  | single h => exact templateUnit_reads h
  | head h _ ih =>
    obtain ⟨hstop, hlen, hne⟩ := templateUnit_reads h
    exact ⟨hstop.trans ih.1, Nat.lt_trans ih.2.1 hlen, hne⟩

theorem templateText_reads (h : Matches templateText p q) :
    templateStop p.rest = templateStop q.rest ∧ q.rest.length < p.rest.length ∧ p.rest ≠ ['\\'] := by
  cases h with
  | seq hl h =>
    cases hl
    exact templateUnits_reads (matches_plus_iff.1 h)

end Regex

namespace Pattern

variable {w t : Text} {n : Nat} {c : Char}

theorem templateText_takes (h : (regex w .templateText).matchLength? t = some n) :
    templateStop t = templateStop (t.drop n) ∧ t ≠ ['\\'] := by
  obtain ⟨q, hq, hrest⟩ := regex_sound h
  rw [← hrest]
  obtain ⟨hstop, -, hne⟩ := Regex.templateText_reads hq
  exact ⟨hstop, hne⟩

theorem exists_templateText {q : Regex.Cursor} (w : Text) (h : Matches .templateUnit ⟨none, t⟩ q) :
    ∃ n, (regex w .templateText).matchLength? t = some n := by
  have htext : Matches .templateText ⟨none, t⟩ q :=
    .seq (.look rfl) (Regex.matches_plus_iff.2 (.single h))
  refine exists_regex htext fun q hq hrest => ?_
  obtain ⟨-, hlen, -⟩ := Regex.templateText_reads hq
  rw [hrest] at hlen
  exact Nat.lt_irrefl _ hlen

end Pattern

/-! ## The state of templates -/

/-- **A table has templates in a state**: it is entered by a backtick alone, and there are four rules in it. -/
structure Table.Templates (t : Table) (q : State) : Prop where
  plain : q.balanced = false
  inside : ∀ r ∈ t.rules, r.mask.contains q = true → r.unterminated = false ∧
    (((∃ w, r.pattern = .regex w .templateText) ∨ r.pattern = .literal ['$']) ∧ r.transition = .stay ∨
      r.pattern = .literal ['\x60'] ∨ r.pattern = .literal ['$', '\x7b'])
  text : ∃ r ∈ t.rules, r.mask.contains q = true ∧ ∃ w, r.pattern = .regex w .templateText
  dollar : ∃ r ∈ t.rules, r.mask.contains q = true ∧ r.pattern = .literal ['$']
  close : ∃ r ∈ t.rules, r.mask.contains q = true ∧ r.pattern = .literal ['\x60']
  opened : ∀ r ∈ t.rules, ∀ q', r.transition = .push q' → q'.name = q.name → q' = q ∧ r.pattern = .literal ['\x60']

namespace Table.Templates

variable {t : Table} {q : State} {p : Policy} {rest : Text} {m : Match}

/-- **Every rule that matches before the text stops** stays in the state, and keeps the place where it stops. -/
theorem takes (hT : t.Templates q) (hgoes : templateStop rest ≠ rest) (hm : t.choose? p q rest = some m) :
    m.rule.unterminated = false ∧ m.rule.transition = .stay ∧
      templateStop (rest.drop m.length) = templateStop rest := by
  obtain ⟨hr, hq, hlen⟩ := choose?_rule hm
  -- a text that does not stop at its first character goes on behind it
  have goes {c : Char} {u : Text} (hb : c ≠ '\\') (h : templateStop (c :: u) ≠ c :: u) :
      ¬(c = '\x60' ∨ c = '$' ∧ u.head? = some '\x7b') := by
    intro hc
    rw [templateStop_cons hb, if_pos hc] at h
    exact h rfl
  obtain ⟨hu, ⟨⟨w, hp⟩ | hp, htr⟩ | hp | hp⟩ := hT.inside _ hr hq
  · rw [hp] at hlen
    exact ⟨hu, htr, (Pattern.templateText_takes hlen).1.symm⟩
  · rw [hp] at hlen
    obtain ⟨-, ⟨u, rfl⟩, hn⟩ := Pattern.literal_eq_some hlen
    refine ⟨hu, htr, ?_⟩
    rw [hn]
    refine (templateStop_other (by decide) (by decide) fun _ hhead => ?_).symm
    exact goes (by decide) hgoes (.inr ⟨rfl, hhead⟩)
  · rw [hp] at hlen
    obtain ⟨-, ⟨u, rfl⟩, -⟩ := Pattern.literal_eq_some hlen
    exact absurd (.inl rfl) (goes (by decide) hgoes)
  · rw [hp] at hlen
    obtain ⟨-, ⟨u, rfl⟩, -⟩ := Pattern.literal_eq_some hlen
    exact absurd (.inr ⟨rfl, rfl⟩) (goes (by decide) hgoes)

/-- **No rule matches in a template** exactly if nothing is left but a backslash at most. -/
theorem choose?_eq_none (hT : t.Templates q) : t.choose? p q rest = none ↔ rest = [] ∨ rest = ['\\'] := by
  rw [choose?_eq_none_iff]
  constructor
  · intro h
    have htext {u : Regex.Cursor} (hu : Matches .templateUnit ⟨none, rest⟩ u) : False := by
      obtain ⟨r, hr, hq, w, hp⟩ := hT.text
      obtain ⟨n, hn⟩ := Pattern.exists_templateText w hu
      have hnone := h r hr hq
      rw [hp, hn] at hnone
      cases hnone
    cases rest with
    | nil => exact .inl rfl
    | cons c u =>
      right
      by_cases hb : c = '\\'
      · subst hb
        cases u with
        | nil => rfl
        | cons d u =>
          refine (htext (u := ⟨some d, u⟩) (.right (.left (.seq (.set (by decide)) (.set ?_))))).elim
          simp [CharClass.contains]
      · exfalso
        by_cases ht : c = '\x60'
        · subst ht
          obtain ⟨r, hr, hq, hp⟩ := hT.close
          have hnone := h r hr hq
          rw [hp] at hnone
          cases hnone
        · by_cases hd : c = '$'
          · subst hd
            obtain ⟨r, hr, hq, hp⟩ := hT.dollar
            have hnone := h r hr hq
            rw [hp] at hnone
            cases hnone
          · refine htext (u := ⟨some c, u⟩) (.left (.set ?_))
            simp [CharClass.contains, CharClass.unions, Ne.symm hb, Ne.symm ht, Ne.symm hd]
  · intro h r hr hq
    cases hm : r.pattern.matchLength? rest with
    | none => rfl
    | some n =>
      rcases h with rfl | rfl
      · have hb := Pattern.matchLength?_bounds hm
        simp only [List.length_nil] at hb
        omega
      · obtain ⟨-, ⟨⟨w, hp⟩ | hp, -⟩ | hp | hp⟩ := hT.inside r hr hq
        · rw [hp] at hm
          exact absurd rfl (Pattern.templateText_takes hm).2
        all_goals
          rw [hp] at hm
          cases hm

/-- **The text of a template is scanned up to the place where it stops.** -/
theorem reaches (hT : t.Templates q) {k : Scanner} (hk : k.stack.top.state = q) :
    ∃ toks k', Scanner.Steps t p k toks k' ∧ k'.stack = k.stack ∧ k'.records = k.records ∧
      (∀ tok ∈ toks, t.Makes q .stay tok) ∧ k'.rest = templateStop k.rest := by
  have hI : ∀ r m, templateStop r = templateStop k.rest → ¬templateStop r = r → t.choose? p q r = some m →
      m.rule.unterminated = false ∧ m.rule.transition = .stay ∧
        templateStop (r.drop m.length) = templateStop k.rest := by
    intro r m hr hgoes hm
    rw [← hr]
    exact hT.takes hgoes hm
  obtain ⟨toks, k', hsteps, hstack, hrecords, hmakes, hstop, hend⟩ :=
    Scanner.steps_until (S := fun r => templateStop r = r) hT.plain hI _ k (Nat.lt_succ_self _) hk rfl
  refine ⟨toks, k', hsteps, hstack, hrecords, hmakes, ?_⟩
  rw [← hstop]
  rcases hend with hend | hend
  · exact hend.symm
  · rcases hT.choose?_eq_none.1 hend with h | h <;> rw [h] <;> rfl

/-- **A template that is not closed** is scanned up to its end, or to a backslash there. -/
theorem stuck (hT : t.Templates q) {k : Scanner} (hk : k.stack.top.state = q)
    (hopen : templateStop k.rest = [] ∨ templateStop k.rest = ['\\']) :
    ∃ toks u k', Scanner.Steps t p k toks k' ∧ k'.stack = k.stack ∧ k.rest = u ++ k'.rest ∧
      k'.loc = k.loc.advance u ∧ k'.rest = templateStop k.rest ∧ t.choose? p q k'.rest = none := by
  obtain ⟨toks, k', hsteps, hstack, -, -, hstop⟩ := hT.reaches (p := p) hk
  obtain ⟨happ, hloc⟩ := hsteps.spell
  refine ⟨toks, _, k', hsteps, hstack, happ, hloc, hstop, ?_⟩
  rw [hT.choose?_eq_none, hstop]
  exact hopen

end Table.Templates

/-! ## The grammar -/

namespace Grammar.Ecmascript

def template : State := ⟨1, templateState, false⟩

def templateTextText : Text := "(?:[^\x60\\\\$]|\\\\[\\s\\S]|\\$(?:[^\x7b\x60\\\\$]|\\\\[\\s\\S]))+".toList

theorem template_specs :
    let states := builder.declareNamed.states
    let inside := Builder.specsIn states.1 (states.1 :: states.2) builder.rules template
    (∀ d ∈ inside, d.unterminated = false ∧
      ((d.shape = .regex templateTextText ∨ d.shape = .literal ['$']) ∧ d.target = .stay ∨
        d.shape = .literal ['\x60'] ∨ d.shape = .literal ['$', '\x7b'])) ∧
    (∃ d ∈ inside, d.shape = .regex templateTextText) ∧ (∃ d ∈ inside, d.shape = .literal ['$']) ∧
    (∃ d ∈ inside, d.shape = .literal ['\x60']) ∧
    (∀ d ∈ builder.rules, d.target = .push templateState → d.shape = .literal ['\x60']) ∧
    (states.1 :: states.2).find? (·.name == templateState) = some template := by
  decide +kernel

theorem templateText_pattern {name : String} {pattern : Pattern} {src : Text}
    (h : Builder.compileShape Regex.ofText? builder.fragments name (.regex templateTextText) = .ok (pattern, src)) :
    ∃ w, pattern = .regex w .templateText := by
  have he : builder.fragments.expand templateTextText = .ok templateTextText := by decide +kernel
  exact ⟨_, Builder.compileShape_regex (by decide +kernel) he (by decide +kernel) h⟩

/-- **The grammar has templates.** -/
theorem templates {t : Table} (ht : ecmascriptTable = .ok t) : t.Templates template := by
  obtain ⟨hstates, -⟩ := Builder.build_ok ht
  have hinitial : t.initial = builder.declareNamed.states.1 := (List.cons.inj hstates).1
  obtain ⟨hinside, ⟨text, htext, htextShape⟩, hdollar, hclose, hopened, hfind⟩ := template_specs
  rw [← hstates, ← hinitial] at hinside htext hdollar hclose
  rw [← hstates] at hfind
  refine ⟨rfl, ?_, ?_, Builder.exists_literal_within ht hdollar, Builder.exists_literal_within ht hclose,
    Builder.entered_by_literal ht hopened hfind⟩
  · intro r hr hq
    obtain ⟨d, hd, hc⟩ := Builder.mem_rules_within ht hr hq
    obtain ⟨-, htarget, hshape, -, hu⟩ := Builder.compile_ok hc
    obtain ⟨hu', ⟨hs, htr⟩ | hs | hs⟩ := hinside d hd
    · rw [htr] at htarget
      refine ⟨hu.trans hu', .inl ⟨?_, (Except.ok.inj htarget).symm⟩⟩
      rcases hs with hs | hs
      · rw [hs] at hshape
        exact .inl (templateText_pattern hshape)
      · rw [hs] at hshape
        exact .inr (Builder.compileShape_literal hshape)
    · rw [hs] at hshape
      exact ⟨hu.trans hu', .inr (.inl (Builder.compileShape_literal hshape))⟩
    · rw [hs] at hshape
      exact ⟨hu.trans hu', .inr (.inr (Builder.compileShape_literal hshape))⟩
  · obtain ⟨r, hr, hq, hc⟩ := Builder.exists_rule_within ht htext
    obtain ⟨-, -, hshape, -, -⟩ := Builder.compile_ok hc
    rw [htextShape] at hshape
    exact ⟨r, hr, hq, templateText_pattern hshape⟩

end Grammar.Ecmascript
end ModalLexer
