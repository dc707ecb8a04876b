import ModalLexer.Proofs.Templates
/-!
# Unclosed — where a comment or a template that is never closed is reported

A run that enters a comment or a template and finds nothing to close it fails.  It blames the opening if it comes to the
end of the text, and that it does except in two cases.  A comment whose text ends with stars is scanned up to these, for
they might begin its end, and a template whose text ends with a lone backslash up to that.  No rule matches there, and
the failure is reported as such at that place (`unclosed_construct_fails`).
-/
namespace ModalLexer

/-- The token that a step makes, and the scanner behind it. -/
def Outcome.token? : Outcome → Option (Token × Scanner)
  | token tok k => some (tok, k)
  | _ => none

theorem Outcome.token?_eq_some {o : Outcome} {tok : Token} {k : Scanner} :
    o.token? = some (tok, k) ↔ o = .token tok k := by
  cases o <;> simp [token?]

namespace Scanner

variable {t : Table} {p : Policy} {k k' : Scanner} {tok : Token}

/-- A run takes a token which enters the state of that name, and stands behind it. -/
def Enters (t : Table) (p : Policy) (s : Scanner) (name : String) (tok : Token) (k : Scanner) : Prop :=
  ∃ toks k₀, Steps t p s toks k₀ ∧ k₀.step t p = .token tok k ∧ k.stack.depth = k₀.stack.depth + 1 ∧
    k.stack.top.state.name = name

theorem Enters.opening {s : Scanner} {q : State} {l : Text} (h : Enters t p s q.name tok k)
    (hl : ∀ r ∈ t.rules, ∀ q', r.transition = .push q' → q'.name = q.name → q' = q ∧ r.pattern = .literal l) :
    tok.lexeme = l ∧ k.stack.top.state = q ∧ k.stack.top.openedAt = tok.loc ∧ 0 < k.stack.depth := by
  obtain ⟨toks, k₀, -, hstep, hd, hname⟩ := h
  obtain ⟨m, hm, htr, hloc, hlex⟩ := step_enters hstep hd
  obtain ⟨hr, -, hlen⟩ := Table.choose?_rule hm
  obtain ⟨hq, hp⟩ := hl _ hr _ htr hname
  rw [hp] at hlen
  obtain ⟨-, ⟨u, hu⟩, hn⟩ := Pattern.literal_eq_some hlen
  refine ⟨?_, hq, hloc, by omega⟩
  rw [hlex, ← hu, hn, List.take_left]

/-- **A run that gets stuck behind an opening** fails, at the opening if the text ends there. -/
theorem Enters.fails {σ : Type} {s : Session σ} {name : String} {toks : List Token} {u : Text}
    (h : Enters t p s.scanner name tok k) (ht : s.table = t) (hp : s.options.policy = p) (hf : s.failure = none)
    (hloc : k.stack.top.openedAt = tok.loc) (hd : 0 < k.stack.depth) (hq : k.stack.top.state.balanced = false)
    (hs : Steps t p k toks k') (hstack : k'.stack = k.stack) (hu : k'.loc = k.loc.advance u)
    (hm : t.choose? p k.stack.top.state k'.rest = none) :
    s.tokens = .error (stuckError name tok.loc (k.loc.advance u) k'.rest) := by
  obtain ⟨before, k₀, hbefore, hstep, -, hname⟩ := h
  have hfail := step_stuck (k := k') (by rw [hstack]; exact hd) (by rw [hstack]; exact hq) (by rw [hstack]; exact hm)
  rw [hstack, hname, hloc, hu] at hfail
  exact Session.tokens_of_steps (hbefore.trans (.cons hstep hs)) hfail s ht hp rfl hf

theorem fails_unmatched_iff (hq : k.stack.top.state.balanced = false) :
    (∃ e k', k.step t p = .fail e k' ∧ e.cause.kind = .noRuleMatched) ↔
      k.rest ≠ [] ∧ t.choose? p k.stack.top.state k.rest = none := by
  constructor
  · rintro ⟨e, k', h, hkind⟩
    rcases step_fail h with ⟨rfl, ⟨-, -, rfl⟩ | ⟨c, hc, hm, -⟩ | ⟨m, -, ⟨-, rfl⟩ | ⟨-, hb⟩⟩⟩ |
      ⟨m, ends, records, -, -, -, -, -, -, rfl⟩
    · simp [unterminated, hq, Cause.kind] at hkind
    · exact ⟨fun hr => (by rw [hr] at hc; cases hc), hm⟩
    · cases hkind
    · rw [balance_of_other fun ho => by rw [hq] at ho; exact Bool.false_ne_true ho.2.2.1] at hb
      cases hb
    · cases hkind
  · rintro ⟨hr, hm⟩
    obtain ⟨c, cs, hc⟩ := List.exists_cons_of_ne_nil hr
    exact ⟨_, _, step_of_no_match hc hm, rfl⟩

end Scanner

theorem Text.stars_eq_nil {u v : Text} (h : (u ++ v).getLast? ≠ some '*') (hv : ∀ c ∈ v, c = '*') : v = [] := by
  rcases List.eq_nil_or_concat v with rfl | ⟨w, c, rfl⟩
  · rfl
  · rw [List.concat_eq_append] at h hv
    rw [← List.append_assoc, List.getLast?_concat, hv c (by simp)] at h
    exact absurd rfl h

/-- Two ways to cut a text before the stars at its end are one. -/
theorem Text.stars_unique {u u' v v' : Text} (h : u ++ v = u' ++ v') (hu : u.getLast? ≠ some '*')
    (hu' : u'.getLast? ≠ some '*') (hv : ∀ c ∈ v, c = '*') (hv' : ∀ c ∈ v', c = '*') : u = u' ∧ v = v' := by
  rcases List.append_eq_append_iff.1 h with ⟨w, rfl, rfl⟩ | ⟨w, rfl, rfl⟩
  · rw [stars_eq_nil hu' fun c hc => hv c (List.mem_append_left _ hc)]
    simp
  · rw [stars_eq_nil hu fun c hc => hv' c (List.mem_append_left _ hc)]
    simp

namespace Grammar

open Scanner (Enters stuckError)

section

variable {g : Grammar} {t : Table} {σ : Type} {s : Session σ} {tok : Token} {k : Scanner}

theorem comment_fails (ht : g.table = .ok t) (hs : s.table = t) (hf : s.failure = none)
    (h : Enters t s.options.policy s.scanner commentState tok k) (hopen : ¬['*', '/'] <:+: k.rest) :
    tok.lexeme = ['/', '*'] ∧ ∃ u v, k.rest = u ++ v ∧ u.getLast? ≠ some '*' ∧ (∀ d ∈ v, d = '*') ∧
      s.tokens = .error (stuckError commentState tok.loc (k.loc.advance u) v) := by
  have hT := comments ht
  have hname : commentState = g.comment.name := by cases g <;> rfl
  have h' : Enters t s.options.policy s.scanner g.comment.name tok k := hname ▸ h
  obtain ⟨hlex, hq, hloc, hd⟩ := h'.opening hT.opened
  obtain ⟨toks, u, k', hsteps, hstack, happ, hu, hlast, hstars, hnone⟩ := hT.stuck hq hopen
  refine ⟨hlex, u, k'.rest, happ, hlast, hstars, ?_⟩
  exact h.fails hs rfl hf hloc hd (by rw [hq]; exact hT.plain) hsteps hstack hu (by rw [hq]; exact hnone)

theorem template_fails (ht : ecmascriptTable = .ok t) (hs : s.table = t) (hf : s.failure = none)
    (h : Enters t s.options.policy s.scanner Ecmascript.templateState tok k)
    (hopen : templateStop k.rest = [] ∨ templateStop k.rest = ['\\']) :
    tok.lexeme = ['\x60'] ∧ ∃ u, k.rest = u ++ templateStop k.rest ∧
      s.tokens = .error (stuckError Ecmascript.templateState tok.loc (k.loc.advance u) (templateStop k.rest)) := by
  have hT := Ecmascript.templates ht
  obtain ⟨hlex, hq, hloc, hd⟩ := h.opening (q := Ecmascript.template) hT.opened
  obtain ⟨toks, u, k', hsteps, hstack, happ, hu, hstop, hnone⟩ := hT.stuck hq hopen
  rw [← hstop]
  refine ⟨hlex, u, happ, ?_⟩
  exact h.fails hs rfl hf hloc hd (by rw [hq]; exact hT.plain) hsteps hstack hu (by rw [hq]; exact hnone)

end

/-- **A comment or a template that is never closed fails the run**, and its opening is blamed if the scan comes to the
end of the text.  A comment is scanned up to the stars that end its text, and a template up to a backslash that ends its
text.  There, and nowhere else in these states, no rule matches, and that is what is reported. -/
theorem unclosed_construct_fails {g : Grammar} {t : Table} (ht : g.table = .ok t) :
    (∀ (σ : Type) (s : Session σ) (tok : Token) (k : Scanner), s.table = t → s.failure = none →
      Enters t s.options.policy s.scanner commentState tok k → ¬['*', '/'] <:+: k.rest →
      tok.lexeme = ['/', '*'] ∧
      (k.rest.getLast? ≠ some '*' → s.tokens = .error ⟨.unterminatedState commentState, tok.loc⟩) ∧
      ∀ u v, k.rest = u ++ v → u.getLast? ≠ some '*' → v ≠ [] → (∀ d ∈ v, d = '*') →
        s.tokens = .error ⟨.unexpected '*' commentState, k.loc.advance u⟩) ∧
    (g = .ecmascript → ∀ (σ : Type) (s : Session σ) (tok : Token) (k : Scanner), s.table = t → s.failure = none →
      Enters t s.options.policy s.scanner Ecmascript.templateState tok k →
      templateStop k.rest = [] ∨ templateStop k.rest = ['\\'] →
      tok.lexeme = ['\x60'] ∧
      (templateStop k.rest = [] → s.tokens = .error ⟨.unterminatedState Ecmascript.templateState, tok.loc⟩) ∧
      ∀ u, k.rest = u ++ ['\\'] → templateStop k.rest = ['\\'] →
        s.tokens = .error ⟨.unexpected '\\' Ecmascript.templateState, k.loc.advance u⟩) ∧
    ∀ (p : Policy) (k : Scanner),
      (k.stack.top.state = g.comment →
        ((∃ e k', k.step t p = .fail e k' ∧ e.cause.kind = .noRuleMatched) ↔
          k.rest ≠ [] ∧ ∀ d ∈ k.rest, d = '*')) ∧
      (g = .ecmascript → k.stack.top.state = Ecmascript.template →
        ((∃ e k', k.step t p = .fail e k' ∧ e.cause.kind = .noRuleMatched) ↔ k.rest = ['\\'])) := by
  refine ⟨?_, ?_, ?_⟩
  · intro σ s tok k hs hf h hopen
    obtain ⟨hlex, u, v, happ, hu, hv, hfails⟩ := comment_fails ht hs hf h hopen
    refine ⟨hlex, ?_, ?_⟩
    · intro hlast
      rw [happ] at hlast
      rw [hfails, Text.stars_eq_nil hlast hv, stuckError]
    · intro u' v' happ' hu' hne hv'
      obtain ⟨rfl, rfl⟩ := Text.stars_unique (happ.symm.trans happ') hu hu' hv hv'
      obtain ⟨d, w, rfl⟩ := List.exists_cons_of_ne_nil hne
      rw [hfails, stuckError, hv d List.mem_cons_self]
  · rintro rfl σ s tok k hs hf h hopen
    obtain ⟨hlex, u, happ, hfails⟩ := template_fails ht hs hf h hopen
    refine ⟨hlex, ?_, ?_⟩
    · intro hstop
      rw [hfails, hstop, stuckError]
    · intro u' happ' hstop
      rw [hstop] at happ hfails
      obtain rfl : u = u' := List.append_cancel_right (happ.symm.trans happ')
      rw [hfails, stuckError]
  · intro p k
    refine ⟨?_, ?_⟩
    · intro hk
      have hT := comments ht
      rw [Scanner.fails_unmatched_iff (by rw [hk]; exact hT.plain), hk, hT.choose?_eq_none]
    · rintro rfl hk
      have hT := Ecmascript.templates ht
      rw [Scanner.fails_unmatched_iff (by rw [hk]; exact hT.plain), hk, hT.choose?_eq_none]
      constructor
      · rintro ⟨hne, h | h⟩
        · exact absurd h hne
        · exact h
      · intro h
        exact ⟨by rw [h]; simp, .inr h⟩

/-- A comment and a template that end with ordinary text. -/
theorem comment_and_template_blamed :
    ∃ t, ecmascriptTable = .ok t ∧
      (Session.new t "/* a".toList "t" {} ()).tokens = .error ⟨.unterminatedState "COMMENT", .start "t"⟩ ∧
      (Session.new t "\x60a".toList "t" {} ()).tokens = .error ⟨.unterminatedState "TEMPLATE", .start "t"⟩ := by
  have hany : (ecmascriptTable.toOption.any fun t =>
      (((Scanner.start t "/* a".toList "t").step t .longest).token?.any fun r => decide (r.2.stack.depth = 1 ∧
        r.2.stack.top.state.name = "COMMENT" ∧ r.2.rest = " a".toList ∧ r.1.loc = .start "t")) &&
      ((Scanner.start t "\x60a".toList "t").step t .longest).token?.any fun r => decide (r.2.stack.depth = 1 ∧
        r.2.stack.top.state.name = "TEMPLATE" ∧ r.2.rest = "a".toList ∧ r.1.loc = .start "t")) = true := by
    decide +kernel
  cases ht : ecmascriptTable with
  | error e =>
    rw [ht] at hany
    cases hany
  | ok t =>
    rw [ht] at hany
    simp only [Except.toOption, Option.any_some, Bool.and_eq_true] at hany
    have enters {text rest : Text} {name : String}
        (h : (((Scanner.start t text "t").step t .longest).token?.any fun r => decide (r.2.stack.depth = 1 ∧
          r.2.stack.top.state.name = name ∧ r.2.rest = rest ∧ r.1.loc = .start "t")) = true) :
        ∃ tok k, Enters t .longest (.start t text "t") name tok k ∧ k.rest = rest ∧ tok.loc = .start "t" := by
      rw [Option.any_eq_true] at h
      obtain ⟨⟨tok, k⟩, hstep, h⟩ := h
      obtain ⟨hd, hname, hrest, hloc⟩ := of_decide_eq_true h
      exact ⟨tok, k, ⟨[], _, .nil _, Outcome.token?_eq_some.1 hstep, hd, hname⟩, hrest, hloc⟩
    obtain ⟨hcomment, htemplate, -⟩ := unclosed_construct_fails (g := .ecmascript) ht
    obtain ⟨tok, k, hk, hrest, hloc⟩ := enters hany.1
    obtain ⟨-, hblamed, -⟩ := hcomment _ (Session.new t "/* a".toList "t" {} ()) tok k rfl rfl hk
      (by rw [hrest]; decide)
    obtain ⟨tok', k', hk', hrest', hloc'⟩ := enters hany.2
    have hstop : templateStop k'.rest = [] := by
      rw [hrest']
      decide
    obtain ⟨-, hblamed', -⟩ := htemplate rfl _ (Session.new t "\x60a".toList "t" {} ()) tok' k' rfl rfl hk' (.inl hstop)
    refine ⟨t, rfl, ?_, ?_⟩
    · rw [hblamed (by rw [hrest]; decide), hloc]
      rfl
    · rw [hblamed' hstop, hloc']
      rfl

/-- **Stars at the end of the text hide the opening** of a comment: they are reported themselves. -/
theorem stars_hide_opening :
    tokenize .bnf "/**".toList "t" = .error (.syntaxError ⟨.unexpected '*' "COMMENT", ⟨2, 1, 3, "t"⟩⟩) := by
  decide +kernel

end Grammar
end ModalLexer
