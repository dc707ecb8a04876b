import ModalLexer.Proofs.Beginnings
import ModalLexer.Proofs.Movers
/-!
# Openers — the texts that a single rule of a grammar is there for

A backtick, a dollar sign with a brace, a slash with a star: where such a text comes next, the rule for it wins whatever
follows (`Grammar.choose?_opener`), and enters or leaves its state (`Grammar.step_opener`).  A quote, a number sign and a
parenthesis with a star begin what one rule reads on from there.  No other takes as much as these (`Grammar.reserves`).
Both are computed once for every grammar (`Grammar.beginnings_decided`).  The recogniser of `?.` can be left out of that,
as it takes nothing that begins otherwise.
-/
namespace ModalLexer

/-- A rule that changes the stack, and the text that it takes. -/
structure Opener where
  mover : Grammar.Mover
  text : Text
  deriving DecidableEq

/-- A text that begins, in a state, what the rules of one name are there for. -/
structure Reserved where
  state : State
  text : Text
  rule : String
  deriving DecidableEq

/-- Whatever follows the text, its rule wins and does as it is listed. -/
def Opener.wins (t : Table) (x : Opener) : Bool :=
  x.text.head? != some '?' && t.decides x.mover.state x.text ["?."] &&
    (t.choose? .longest x.mover.state x.text).any fun m =>
      m.rule.name == x.mover.rule && m.rule.kind == x.mover.kind && m.rule.transition == x.mover.transition &&
        !m.rule.unterminated && m.length == x.text.length

/-- Whatever follows the text, no other rule takes as much. -/
def Reserved.holds (t : Table) (x : Reserved) : Bool :=
  x.text.head? != some '?' && t.decides x.state x.text [x.rule, "?."] &&
    (t.candidates x.state x.text).all fun m => m.rule.name == x.rule || decide (m.length < x.text.length)

def Shape.isScan : Shape → Bool
  | .scan _ => true
  | _ => false

namespace Grammar

def openers : Grammar → List Opener
  | ecmascript => [
      ⟨⟨base, "template-open", .templateDelimiter, .push Ecmascript.template⟩, ['\x60']⟩,
      ⟨⟨Ecmascript.interpolation, "template-open", .templateDelimiter, .push Ecmascript.template⟩, ['\x60']⟩,
      ⟨⟨Ecmascript.template, "template-close", .templateDelimiter, .pop⟩, ['\x60']⟩,
      ⟨⟨Ecmascript.template, "interpolation-open", .interpolationStart, .push Ecmascript.interpolation⟩, ['$', '\x7b']⟩,
      ⟨⟨base, "comment-open", .comment, .push Ecmascript.comment⟩, ['/', '*']⟩,
      ⟨⟨Ecmascript.interpolation, "comment-open", .comment, .push Ecmascript.comment⟩, ['/', '*']⟩,
      ⟨⟨Ecmascript.regexp, "comment-open", .comment, .push Ecmascript.comment⟩, ['/', '*']⟩]
  | c => [⟨⟨base, "comment-open", .comment, .push (comment c)⟩, ['/', '*']⟩]
  | bnf => [
      ⟨⟨base, "comment-open", .comment, .push (comment bnf)⟩, ['/', '*']⟩,
      ⟨⟨Bnf.action, "comment-open", .comment, .push (comment bnf)⟩, ['/', '*']⟩]

/-- The prefixes that a string of the C-like grammar may have. -/
def C.encodings : List Text := [[], ['u', '8'], ['u'], ['U'], ['L']]

def reserved : Grammar → List Reserved
  | ecmascript => [
      ⟨base, ['"'], "string"⟩, ⟨base, ['\''], "string"⟩,
      ⟨Ecmascript.interpolation, ['"'], "string"⟩, ⟨Ecmascript.interpolation, ['\''], "string"⟩]
  | c => ⟨base, ['#'], "preprocessor"⟩ :: C.encodings.map fun e => ⟨base, e ++ ['"'], "string"⟩
  | bnf => [⟨base, ['(', '*'], "ebnf-comment"⟩]

theorem beginnings_decided (g : Grammar) :
    (g.table.toOption.any fun t => g.openers.all (·.wins t) && g.reserved.all (·.holds t)) = true := by
  cases g <;> decide +kernel

/-! ## The recogniser -/

theorem scan_specs (g : Grammar) :
    (∀ d ∈ g.builder.rules, d.name = "?." → d.shape.isScan = true) ∧
      ∀ d ∈ g.builder.rules, d.shape.isScan = true → d.shape = .scan Ecmascript.optionalChain := by
  refine ⟨by cases g <;> decide +kernel, fun d hd hscan => ?_⟩
  have hmem : d ∈ g.builder.rules.filter (·.shape.isScan) := List.mem_filter.2 ⟨hd, hscan⟩
  cases g with
  | ecmascript =>
    have honly : (builder .ecmascript).rules.filter (·.shape.isScan) =
        [(RuleSpec.scan "?." Ecmascript.optionalChain .punctuator).within Ecmascript.code] := rfl
    rw [honly, List.mem_singleton] at hmem
    rw [hmem]
    rfl
  | c =>
    have hnone : (builder .c).rules.filter (·.shape.isScan) = [] := rfl
    rw [hnone] at hmem
    cases hmem
  | bnf =>
    have hnone : (builder .bnf).rules.filter (·.shape.isScan) = [] := rfl
    rw [hnone] at hmem
    cases hmem

end Grammar

theorem Builder.compileShape_scan {read : Text → Option Regex} {fs : Fragments} {name : String} {f : Recogniser}
    {src : Text} {p : Pattern} (h : compileShape read fs name (.scan f) = .ok (p, src)) : p = .scan f := by
  cases h
  rfl

namespace Grammar

open Scanner (Moves)

variable {g : Grammar} {t : Table} {u v w : Text} {r : Rule} {m : Match} {k k' : Scanner}

/-- The rule for `?.` takes nothing that begins otherwise. -/
theorem optionalChain_eq_none (ht : g.table = .ok t) (hr : r ∈ t.rules) (hname : r.name = "?.")
    (hw : w.head? ≠ some '?') : r.pattern.matchLength? w = none := by
  rw [table_eq_build] at ht
  obtain ⟨d, hd, hc⟩ := Builder.mem_rules ht hr
  obtain ⟨-, -, hshape, -, -⟩ := Builder.compile_ok hc
  obtain ⟨hscan, honly⟩ := scan_specs g
  rw [honly d hd (hscan d hd ((Builder.compile_name hc).symm.trans hname))] at hshape
  rw [Builder.compileShape_scan hshape, Pattern.matchLength?]
  cases w with
  | nil => rfl
  | cons c w =>
    have hnone : Ecmascript.optionalChain (c :: w) = none := by
      unfold Ecmascript.optionalChain
      split
      · rename_i heq
        cases heq
        exact absurd rfl hw
      · rfl
    rw [hnone]

theorem head?_append_ne (hw : w.head? ≠ some '?') (hne : w ≠ []) : (w ++ u).head? ≠ some '?' := by
  cases w with
  | nil => exact absurd rfl hne
  | cons c w => exact hw

theorem openers_win (ht : g.table = .ok t) : ∀ x ∈ g.openers, x.wins t = true := by
  have h := beginnings_decided g
  rw [ht] at h
  simp only [Except.toOption, Option.any_some, Bool.and_eq_true, List.all_eq_true] at h
  exact h.1

theorem reserved_holds (ht : g.table = .ok t) : ∀ x ∈ g.reserved, x.holds t = true := by
  have h := beginnings_decided g
  rw [ht] at h
  simp only [Except.toOption, Option.any_some, Bool.and_eq_true, List.all_eq_true] at h
  exact h.2

/-- **At the text of an opener its rule wins**, whatever follows. -/
theorem choose?_opener (ht : g.table = .ok t) {x : Opener} (hx : x ∈ g.openers) (u : Text) :
    ∃ m, t.choose? .longest x.mover.state (x.text ++ u) = some m ∧ m.rule.name = x.mover.rule ∧
      m.rule.kind = x.mover.kind ∧ m.rule.transition = x.mover.transition ∧ m.rule.unterminated = false ∧
      m.length = x.text.length := by
  have h := openers_win ht x hx
  simp only [Opener.wins, Bool.and_eq_true, bne_iff_ne, ne_eq, Option.any_eq_true, beq_iff_eq,
    Bool.not_eq_true'] at h
  obtain ⟨⟨hhead, hd⟩, m, hm, ⟨⟨⟨hname, hkind⟩, htr⟩, hu⟩, hlen⟩ := h
  have hb := Table.choose?_bounds hm
  have hne : x.text ≠ [] := by
    intro hnil
    rw [hnil, List.length_nil] at hlen
    omega
  refine ⟨m, ?_, hname, hkind, htr, hu, hlen⟩
  rw [Table.choose?_append hd, hm]
  intro r hr hname
  have hscan := List.mem_singleton.1 hname
  rw [optionalChain_eq_none ht hr hscan (head?_append_ne hhead hne), optionalChain_eq_none ht hr hscan hhead]

/-- **Where a text is reserved for one rule**, no other takes as much. -/
theorem reserves (ht : g.table = .ok t) {x : Reserved} (hx : x ∈ g.reserved) (hne : x.text ≠ []) (u : Text)
    (hm : m ∈ t.candidates x.state (x.text ++ u)) : m.rule.name = x.rule ∨ m.length < x.text.length := by
  have h := reserved_holds ht x hx
  simp only [Reserved.holds, Bool.and_eq_true, bne_iff_ne, ne_eq, List.all_eq_true, Bool.or_eq_true, beq_iff_eq,
    decide_eq_true_eq] at h
  obtain ⟨⟨hhead, hd⟩, hshort⟩ := h
  by_cases hrule : m.rule.name = x.rule
  · exact .inl hrule
  · have hscan : m.rule.name ≠ "?." := by
      intro hname
      obtain ⟨he, hlen⟩ := Table.mem_candidates.1 hm
      have hmem := List.mem_of_getElem? (Table.mem_eligible.1 he).1
      rw [optionalChain_eq_none ht hmem hname (head?_append_ne hhead hne)] at hlen
      cases hlen
    exact hshort m ((Table.mem_candidates_append hd (by simp [hrule, hscan]) u).1 hm)

/-- A rule that takes all of a text reserved for it wins. -/
theorem winner_of_reserved (ht : g.table = .ok t) {x : Reserved} (hx : x ∈ g.reserved) (hne : x.text ≠ [])
    {n : Match} (hn : n ∈ t.candidates x.state (x.text ++ u)) (hlen : x.text.length ≤ n.length) :
    ∃ m, t.choose? .longest x.state (x.text ++ u) = some m ∧ m.rule.name = x.rule ∧ n.rank ≤ m.rank := by
  cases hm : t.choose? .longest x.state (x.text ++ u) with
  | none =>
    obtain ⟨he, hl⟩ := Table.mem_candidates.1 hn
    obtain ⟨hr, hq⟩ := Table.mem_eligible.1 he
    rw [Table.choose?_eq_none_iff.1 hm _ (List.mem_of_getElem? hr) hq] at hl
    cases hl
  | some m =>
    have hrank := Table.longest_max hm hn
    have hle := Match.length_le_of_rank hrank
    refine ⟨m, rfl, (reserves ht hx hne u (Table.choose?_mem hm)).resolve_right ?_, hrank⟩
    omega

/-- **What a rule of a grammar has from its declaration.** -/
theorem declared_of_mem (ht : g.table = .ok t) (hr : r ∈ t.rules) :
    ∃ d ∈ g.builder.rules, d.name = r.name ∧ r.kind = d.kind ∧ r.unterminated = d.unterminated ∧
      Builder.resolveTarget g.states d.target = .ok r.transition ∧
      Builder.compileShape Regex.ofText? g.builder.fragments d.name d.shape = .ok (r.pattern, r.source) := by
  obtain ⟨d, hd, hc⟩ := Builder.mem_rules (table_eq_build g ▸ ht) hr
  obtain ⟨-, htarget, hshape, hkind, hu⟩ := Builder.compile_ok hc
  rw [states_eq_declared ht] at htarget
  exact ⟨d, hd, (Builder.compile_name hc).symm, hkind, hu, htarget, hshape⟩

/-- The only rule of its name, which goes by the expression `a`. -/
structure Sole (g : Grammar) (x : Reserved) (K : Kind) (a : Regex) : Prop where
  mem : x ∈ g.reserved
  text : x.text ≠ []
  kind : K ≠ .identifier ∧ K ≠ .punctuator
  eligible : ∃ d ∈ Builder.specsIn base g.states g.builder.rules x.state, d.name = x.rule
  spec : ∀ d ∈ g.builder.rules, d.name = x.rule →
    d.kind = K ∧ d.target = .stay ∧ d.unterminated = false ∧ d.shape.regex? g.builder.fragments = some a

/-- **Where a text is reserved for a single rule, a step takes what that rule takes.** -/
theorem step_sole {x : Reserved} {K : Kind} {a : Regex} (ht : g.table = .ok t) (h : g.Sole x K a)
    (hheads : x.text <+: v) (htakes : ∀ w, (Pattern.regex w a).matchLength? (v ++ u) = some v.length)
    (hk : k.stack.top.state = x.state) (hr : k.rest = v ++ u) :
    ∃ tok, k.step t .longest = .token tok (k.skipChars v.length) ∧ tok.kind = K ∧ tok.lexeme = v ∧ tok.loc = k.loc ∧
      (k.skipChars v.length).rest = u := by
  have takes {r : Rule} (hr : r ∈ t.rules) (hname : r.name = x.rule) : r.kind = K ∧ r.transition = .stay ∧
      r.unterminated = false ∧ r.pattern.matchLength? (v ++ u) = some v.length := by
    obtain ⟨d, hd, hsame, hkind, hu, htarget, hshape⟩ := declared_of_mem ht hr
    obtain ⟨hK, hstay, hclosed, hregex⟩ := h.spec d hd (hsame.trans hname)
    obtain ⟨w, hp⟩ := Builder.compileShape_regex? hregex hshape
    rw [hstay] at htarget
    exact ⟨hkind.trans hK, (Except.ok.inj htarget).symm, hu.trans hclosed, hp ▸ htakes w⟩
  obtain ⟨d, hd, hname⟩ := h.eligible
  rw [← initial_eq ht, ← states_eq_declared ht] at hd
  obtain ⟨rule, hrule, hmask, hc⟩ := Builder.exists_rule_within (table_eq_build g ▸ ht) hd
  obtain ⟨-, -, -, hmatch⟩ := takes hrule ((Builder.compile_name hc).trans hname)
  obtain ⟨i, hcand⟩ := Table.exists_candidate hrule hmask hmatch
  obtain ⟨v', hv⟩ := hheads
  have hwhole : v ++ u = x.text ++ (v' ++ u) := by rw [← List.append_assoc, hv]
  rw [hwhole] at hcand
  obtain ⟨m, hm, hwin, -⟩ := winner_of_reserved ht h.mem h.text hcand (hv ▸ by simp)
  obtain ⟨hmem, -, hml⟩ := Table.choose?_rule hm
  obtain ⟨hkind, hstay, hu, hmatch'⟩ := takes hmem hwin
  rw [← hwhole, hmatch', Option.some.injEq] at hml
  rw [← hk, ← hwhole, ← hr] at hm
  have hclass : k.kindOf t m = K := by rw [Scanner.kindOf, Table.classify_of_ne _ (hkind ▸ h.kind.1), hkind]
  have hstep := Scanner.step_of_stay hm hu (fun _ => hclass ▸ h.kind.2) hstay
  rw [← hml] at hstep
  refine ⟨k.token t m false, hstep, hclass, ?_, rfl, ?_⟩
  · rw [Scanner.token, Scanner.lexeme, hr, ← hml, List.take_left]
  · show k.rest.drop v.length = u
    rw [hr, List.drop_left]

/-- **At the text of an opener a step takes it**, and enters or leaves as the rule does. -/
theorem step_opener (ht : g.table = .ok t) {x : Opener} (hx : x ∈ g.openers) (hk : k.stack.top.state = x.mover.state)
    (hr : k.rest = x.text ++ u) (hmv : Moves k.loc x.mover.transition (k.skipChars x.text.length) k') :
    ∃ tok, k.step t .longest = .token tok k' ∧ tok.kind = x.mover.kind ∧ tok.lexeme = x.text ∧ tok.loc = k.loc ∧
      t.nameOf? tok = some x.mover.rule := by
  obtain ⟨m, hm, hname, hkind, htr, hu, hlen⟩ := choose?_opener ht hx u
  have hmover : ∀ x ∈ g.openers, x.mover ∈ g.movers := by cases g <;> decide
  obtain ⟨hident, hpunct, -⟩ := mover_kind g _ (hmover x hx)
  have hclass : k.kindOf t m = x.mover.kind := by
    rw [Scanner.kindOf, Table.classify_of_ne _ (hkind ▸ hident), hkind]
  rw [← hk, ← hr] at hm
  refine ⟨k.token t m false, Scanner.step_moves hm hu (fun _ => hclass ▸ hpunct) (htr ▸ hlen ▸ hmv), hclass, ?_, rfl, ?_⟩
  · rw [Scanner.token, Scanner.lexeme, hr, hlen, List.take_left]
  · rw [Table.nameOf?, Scanner.token, Table.choose?_index hm, Option.map_some, hname]

end Grammar
end ModalLexer
