import ModalLexer.Proofs.Beside
import ModalLexer.Proofs.Openers
import ModalLexer.Proofs.Readings
import ModalLexer.Proofs.Resolution
/-!
# Slashes — a regular expression ends at its slash

Behind its opening slash a regular expression is read in items: an escape, a class that is closed on its line, or any other
character of the line (`regexpItem`).  The rule for it goes by the same items, and none of them begins with a slash, so its
rounds lead to the place where the reading stops and nowhere else (`Regex.leaves_regexpRounds`).  If that place is a slash,
the match goes on behind it over as many letters as there are, and if not there is no match (`Pattern.regexpLiteral_iff`).

A comment begins with a slash as well, but with a second character that no regular expression has there.  So no other rule
of the state matches along with it (`Grammar.Ecmascript.regexp_ends_at_slash`).
-/
namespace ModalLexer

open Regex (Matches)

/-! ## Items -/

/-- **An item of a regular expression**: a class between brackets, if it is closed on its line, or else a character of the
line or an escape.  A slash is none, save in a class or escaped. -/
def regexpItem : Text → Option Text
  | '[' :: t => closed? ']' ((Reading.upTo ']').stop t)
  | t => Reading.upToItem '/' t

theorem regexpItem_of_ne {t : Text} (h : t.head? ≠ some '[') : regexpItem t = Reading.upToItem '/' t := by
  rw [regexpItem]
  rintro u rfl
  exact h rfl

theorem regexpItem_eq_some {t u : Text} : regexpItem t = some u ↔
    (∃ c, t = c :: u ∧ c ∉ ['/', '\\', '[', '\n', '\r']) ∨ (∃ c, t = '\\' :: c :: u ∧ c ∉ ['\n', '\r']) ∨
      ∃ v, t = '[' :: v ∧ (Reading.upTo ']').stop v = ']' :: u := by
  by_cases h : t.head? = some '['
  · obtain ⟨v, rfl⟩ := List.head?_eq_some_iff.1 h
    rw [regexpItem, closed?_eq_some]
    simp
  · rw [regexpItem_of_ne h, Reading.upToItem_eq_some]
    constructor
    · rintro (⟨c, rfl, hc⟩ | hescape)
      · have hbracket : c ≠ '[' := fun he => h (congrArg some he)
        exact .inl ⟨c, rfl, by simp_all⟩
      · exact .inr (.inl hescape)
    · rintro (⟨c, rfl, hc⟩ | hescape | ⟨v, rfl, -⟩)
      · exact .inl ⟨c, rfl, by simp_all⟩
      · exact .inr hescape
      · exact absurd rfl h

/-- A regular expression behind its opening slash. -/
def regexpText : Reading where
  item := regexpItem
  shorter := by
    intro t u h
    rcases regexpItem_eq_some.1 h with ⟨c, rfl, -⟩ | ⟨c, rfl, -⟩ | ⟨v, rfl, hv⟩
    · exact ⟨c, u, rfl, List.suffix_refl u⟩
    · exact ⟨'\\', c :: u, rfl, List.suffix_cons c u⟩
    · have hsuffix := (Reading.upTo ']').stop_suffix v
      rw [hv] at hsuffix
      exact ⟨'[', v, rfl, (List.suffix_cons ']' u).trans hsuffix⟩

/-- **Behind a slash a regular expression is closed**, and `u` is behind the slash that closes it: there is an item, the
first does not begin with a star, and the reading comes to a slash before anything else that is no item. -/
structure RegexpTo (w u : Text) : Prop where
  item : (regexpItem w).isSome = true
  star : w.head? ≠ some '*'
  stop : regexpText.stop w = '/' :: u

namespace RegexpTo

variable {w u : Text}

theorem exists_append (h : RegexpTo w u) : ∃ v, w = v ++ '/' :: u := by
  obtain ⟨v, hv⟩ := regexpText.stop_suffix w
  rw [h.stop] at hv
  exact ⟨v, hv.symm⟩

theorem no_comment (h : RegexpTo w u) : ∀ d ∈ w.head?, ¬(d = '/' ∨ d = '*') := by
  rintro d hd (rfl | rfl)
  · obtain ⟨v, rfl⟩ := List.head?_eq_some_iff.1 hd
    cases h.item
  · exact h.star hd

end RegexpTo

/-- The text of a regular expression with `v` between its slashes, of which the second has `u` behind it. -/
def regexpLexeme (v u : Text) : Text := '/' :: (v ++ '/' :: u.takeWhile Char.isAlpha)

theorem regexpLexeme_append (v u : Text) : regexpLexeme v u ++ u.dropWhile Char.isAlpha = '/' :: (v ++ '/' :: u) := by
  rw [regexpLexeme, List.cons_append, List.append_assoc, List.cons_append, List.takeWhile_append_dropWhile]

/-! ## The expression -/

namespace Regex

/-- A class behind its opening bracket. -/
def regexpClass : Regex := seq (star true (lineUnit ']')) (char ']')

/-- An item, `s` being the characters that are items themselves. -/
def regexpUnit (s : CharClass) : Regex := alt (set s) (alt (seq (char '\\') inLine) (seq (char '[') regexpClass))

def regexpRounds : Regex := star true (regexpUnit (.noneOf ['/', '\\', '[', '\n', '\r']))

/-- A slash and letters. -/
def regexpEnd : Regex := seq (char '/') (star true (set (.unions [.range 'A' 'Z', .range 'a' 'z'])))

def regexpLiteral : Regex :=
  seq (look .textStart) (seq (char '/')
    (seq (regexpUnit (.noneOf ['*', '/', '\\', '[', '\n', '\r'])) (seq regexpRounds regexpEnd)))

variable {b : Option Char} {s : CharClass} {t u w z : Text}

theorem regexpClass_iff : (∃ b', Matches regexpClass ⟨b, t⟩ ⟨b', u⟩) ↔ (Reading.upTo ']').stop t = ']' :: u :=
  (lineUnit_follows ']').closed_iff (Reading.upToItem_closing ']' (by decide))

theorem regexpUnit_iff : (∃ b', Matches (regexpUnit s) ⟨b, t⟩ ⟨b', u⟩) ↔
    (∃ c, t = c :: u ∧ s.contains c = true) ∨ (∃ c, t = '\\' :: c :: u ∧ c ∉ ['\n', '\r']) ∨
      ∃ v, t = '[' :: v ∧ (Reading.upTo ']').stop v = ']' :: u := by
  rw [regexpUnit, exists_alt_iff, exists_alt_iff, exists_set_iff, escape_iff, exists_behind_iff]
  simp only [regexpClass_iff]

theorem regexpUnit_follows : (regexpUnit (.noneOf ['/', '\\', '[', '\n', '\r'])).Follows regexpText.item := by
  intro b t u
  simp only [regexpUnit_iff, CharClass.contains_noneOf]
  exact regexpItem_eq_some.symm

/-- **The first item** does not begin with a star. -/
theorem regexpFirst_follows : (regexpUnit (.noneOf ['*', '/', '\\', '[', '\n', '\r'])).Follows fun t =>
    if t.head? = some '*' then none else regexpItem t := by
  intro b t u
  simp only [regexpUnit_iff, CharClass.contains_noneOf]
  by_cases h : t.head? = some '*'
  · obtain ⟨v, rfl⟩ := List.head?_eq_some_iff.1 h
    simp
  · rw [if_neg h, regexpItem_eq_some]
    refine or_congr_left (exists_congr fun c => and_congr_right ?_)
    rintro rfl
    have hstar : c ≠ '*' := fun he => h (congrArg some he)
    simp [hstar]

theorem contains_letters (c : Char) : (CharClass.unions [.range 'A' 'Z', .range 'a' 'z']).contains c = c.isAlpha := by
  have hupper : (CharClass.range 'A' 'Z').contains c = c.isUpper := (Bool.decide_and _ _).symm
  have hlower : (CharClass.range 'a' 'z').contains c = c.isLower := rfl
  rw [CharClass.contains_unions, List.any_cons, List.any_cons, List.any_nil, Bool.or_false, hupper, hlower]
  rfl

/-- **Behind the items** the match takes a slash and as many letters as there are. -/
theorem leaves_regexpEnd (p : Cursor) : leaves [regexpEnd] p = (closed? '/' p.rest).map (·.dropWhile Char.isAlpha) := by
  obtain ⟨b, t⟩ := p
  rw [regexpEnd, leaves_seq (by decide)]
  cases t with
  | nil => exact leaves_set_nil _ (by decide) b
  | cons c t =>
    rw [leaves_char _ (by decide), leaves_star_set, closed?, funext contains_letters]
    split <;> rfl

/-- **The rounds go on to where the reading stops**, for no item begins with a slash. -/
theorem leaves_regexpRounds (p : Cursor) :
    leaves [regexpRounds, regexpEnd] p = (closed? '/' (regexpText.stop p.rest)).map (·.dropWhile Char.isAlpha) := by
  refine leaves_star_follows (f := fun t => (closed? '/' t).map (·.dropWhile Char.isAlpha)) regexpUnit_follows
    (by decide) (by decide) leaves_regexpEnd (fun t ht => ?_) p
  cases hc : closed? '/' t with
  | none => rfl
  | some u =>
    rw [closed?_eq_some.1 hc] at ht
    cases ht

/-- **What is left behind a regular expression** is left behind its closing slash and the letters there. -/
theorem leaves_regexpLiteral :
    leaves [regexpLiteral] ⟨none, '/' :: w⟩ = some z ↔ ∃ u, RegexpTo w u ∧ u.dropWhile Char.isAlpha = z := by
  have hfirst := leaves_follows (p := ⟨some '/', w⟩) (r := [seq regexpRounds regexpEnd])
    (f := fun t => (closed? '/' (regexpText.stop t)).map (·.dropWhile Char.isAlpha)) regexpFirst_follows (by decide)
    (by decide) fun q _ => (leaves_seq (by decide)).trans (leaves_regexpRounds q)
  rw [regexpLiteral, leaves_seq (by decide), leaves_look (by decide) rfl, leaves_seq (by decide),
    leaves_char _ (by decide), if_pos rfl, leaves_seq (by decide), hfirst]
  simp only [Option.bind_eq_some_iff, Option.map_eq_some_iff, closed?_eq_some]
  constructor
  · rintro ⟨v, hv, u, hu, hz⟩
    by_cases hstar : w.head? = some '*'
    · rw [if_pos hstar] at hv
      cases hv
    · rw [if_neg hstar] at hv
      exact ⟨u, ⟨by rw [hv]; rfl, hstar, (Reading.stop_of_item (R := regexpText) hv).trans hu⟩, hz⟩
  · rintro ⟨u, h, hz⟩
    obtain ⟨v, hv⟩ := Option.isSome_iff_exists.1 h.item
    refine ⟨v, by rw [if_neg h.star, hv], u, ?_, hz⟩
    rw [← Reading.stop_of_item (R := regexpText) hv, h.stop]

end Regex

/-- **A regular expression is taken up to its closing slash**, with the letters behind it, and nothing else is. -/
theorem Pattern.regexpLiteral_iff {written w : Text} {n : Nat} :
    (Pattern.regex written .regexpLiteral).matchLength? ('/' :: w) = some n ↔
      ∃ v u, w = v ++ '/' :: u ∧ RegexpTo w u ∧ n = (regexpLexeme v u).length := by
  rw [Pattern.matchLength?, Option.filter_eq_some_iff, Regex.matchLength?_eq_some_iff, Regex.leaves_regexpLiteral,
    decide_eq_true_eq]
  constructor
  · rintro ⟨⟨hn, u, h, hdrop⟩, -⟩
    obtain ⟨v, rfl⟩ := h.exists_append
    have hlen := congrArg List.length hdrop
    have hwhole := congrArg List.length (regexpLexeme_append v u)
    rw [List.length_drop] at hlen
    rw [List.length_append] at hwhole
    exact ⟨v, u, rfl, h, by omega⟩
  · rintro ⟨v, u, rfl, h, rfl⟩
    rw [← regexpLexeme_append]
    refine ⟨⟨?_, u, h, List.drop_left.symm⟩, Nat.succ_pos _⟩
    rw [List.length_append]
    exact Nat.le_add_right _ _

/-! ## The grammar -/

namespace Grammar.Ecmascript

variable {t : Table} {r : Rule} {i n : Nat} {u v w : Text}

theorem regexp_specs :
    (∀ d ∈ builder.rules, d.name = "regexp-body" → d.kind = .regexp ∧ d.target = .pop ∧ d.unterminated = false ∧
      d.shape.regex? builder.fragments = some .regexpLiteral) ∧
    (∀ e ∈ builder.rules.zipIdx, e.1.name = "regexp-body" → e.2 = builder.rules.findIdx (·.name == "regexp-body")) ∧
    (∀ d ∈ Builder.specsIn base (states .ecmascript) builder.rules regexp,
      d.name = "regexp-body" ∨ d.kind.isTrivia = true) ∧
    ∃ d ∈ Builder.specsIn base (states .ecmascript) builder.rules regexp, d.name = "regexp-body" := by
  decide +kernel

/-- **The rule for regular expressions**, by its name. -/
theorem regexp_rule (ht : ecmascriptTable = .ok t) (hr : r ∈ t.rules) (hname : r.name = "regexp-body") :
    r.kind = .regexp ∧ r.transition = .pop ∧ r.unterminated = false ∧
      ∃ written, r.pattern = .regex written .regexpLiteral := by
  obtain ⟨hspec, -⟩ := regexp_specs
  obtain ⟨d, hd, hc⟩ := Builder.mem_rules ht hr
  obtain ⟨-, htarget, hshape, hkind, hu⟩ := Builder.compile_ok hc
  obtain ⟨hdkind, hdpop, hdu, hregex⟩ := hspec d hd ((Builder.compile_name hc).symm.trans hname)
  rw [hdpop] at htarget
  exact ⟨hkind.trans hdkind, (Except.ok.inj htarget).symm, hu.trans hdu, Builder.compileShape_regex? hregex hshape⟩

/-- No other rule has this name. -/
theorem regexp_place (ht : ecmascriptTable = .ok t) (hr : t.rules[i]? = some r) (hname : r.name = "regexp-body") :
    i = builder.rules.findIdx (·.name == "regexp-body") := by
  obtain ⟨-, hplace, -⟩ := regexp_specs
  obtain ⟨d, hd, hc⟩ := Builder.exists_spec_at ht hr
  exact hplace (d, i) (List.mem_zipIdx_iff_getElem?.2 hd) ((Builder.compile_name hc).symm.trans hname)

/-- **Where a regular expression matches, nothing else does.** -/
theorem regexp_alone (ht : ecmascriptTable = .ok t) (hr : t.rules[i]? = some r) (hname : r.name = "regexp-body")
    (hmask : r.mask.contains regexp = true) (hm : r.pattern.matchLength? ('/' :: w) = some n) :
    t.candidates regexp ('/' :: w) = [⟨i, r, n⟩] := by
  obtain ⟨-, -, -, written, hp⟩ := regexp_rule ht (List.mem_of_getElem? hr) hname
  refine Table.candidates_eq_singleton (m := ⟨i, r, n⟩) (Table.mem_candidates.2 ⟨Table.mem_eligible.2 ⟨hr, hmask⟩, hm⟩)
    fun m hcand => ?_
  obtain ⟨he, hlen⟩ := Table.mem_candidates.1 hcand
  obtain ⟨hrule, hmask'⟩ := Table.mem_eligible.1 he
  by_cases htrivia : m.rule.kind.isTrivia = true
  · -- trivia begin with no slash or as a comment does, and here is a regular expression
    exfalso
    rw [hp, Pattern.regexpLiteral_iff] at hm
    obtain ⟨v, u, -, h, -⟩ := hm
    have hblank := (separates ht).inRegexp m.rule (List.mem_of_getElem? hrule) hmask'
    rw [Rule.suitsRegexp, if_pos htrivia, Bool.or_eq_true] at hblank
    rcases hblank with hb | hb
    · exact Pattern.avoidsSlash_sound hb hlen rfl
    · obtain ⟨-, d, u', hrest, hd⟩ := Pattern.opensComment_sound hb hlen
      rw [(List.cons.inj hrest).2] at h
      exact h.no_comment d rfl hd
  · obtain ⟨-, -, honly, -⟩ := regexp_specs
    obtain ⟨d, hd, hc⟩ := Builder.mem_rules_within ht (List.mem_of_getElem? hrule) hmask'
    obtain ⟨-, -, -, hkind, -⟩ := Builder.compile_ok hc
    rw [initial_eq (g := .ecmascript) ht, states_eq_declared (g := .ecmascript) ht] at hd
    have hname' := (Builder.compile_name hc).trans ((honly d hd).resolve_right fun h => htrivia (hkind ▸ h))
    exact (regexp_place ht hrule hname').trans (regexp_place ht hr hname).symm

/-- The rule found by its name is eligible before a regular expression. -/
theorem exists_regexp_rule (ht : ecmascriptTable = .ok t) :
    ∃ i r, t.rule? "regexp-body" = some (i, r) ∧ t.rules[i]? = some r ∧ r.name = "regexp-body" ∧
      r.mask.contains regexp = true := by
  obtain ⟨-, -, -, d, hd, hdname⟩ := regexp_specs
  rw [← initial_eq (g := .ecmascript) ht, ← states_eq_declared (g := .ecmascript) ht] at hd
  obtain ⟨r, hmem, hmask, hc⟩ := Builder.exists_rule_within ht hd
  have hname : r.name = "regexp-body" := (Builder.compile_name hc).trans hdname
  obtain ⟨i, hi⟩ := List.mem_iff_getElem?.1 hmem
  obtain ⟨⟨j, r'⟩, hfind⟩ := Table.exists_rule?_of_mem hmem
  rw [hname] at hfind
  obtain ⟨hj, hname'⟩ := Table.rule?_some hfind
  obtain rfl : j = i := (regexp_place ht hj hname').trans (regexp_place ht hi hname).symm
  obtain rfl : r' = r := Option.some.inj (hj.symm.trans hi)
  exact ⟨j, r', hfind, hi, hname, hmask⟩

/-- **At a closed regular expression a step takes all of it**, with the letters behind it, and leaves the state. -/
theorem closed_regexp_step (ht : ecmascriptTable = .ok t) (hr : t.rules[i]? = some r) (hname : r.name = "regexp-body")
    (hmask : r.mask.contains regexp = true) {k : Scanner} {j : StateStack} {loc : Location} (p : Policy)
    (hstack : k.stack = j.push regexp loc) (hrest : k.rest = '/' :: (v ++ '/' :: u)) (h : RegexpTo (v ++ '/' :: u) u) :
    ∃ tok k', k.step t p = .token tok k' ∧ tok.kind = .regexp ∧ tok.rule = i ∧ tok.lexeme = regexpLexeme v u ∧
      tok.loc = k.loc ∧ k'.rest = u.dropWhile Char.isAlpha ∧ k'.stack = j := by
  obtain ⟨hkind, hpop, hu, written, hp⟩ := regexp_rule ht (List.mem_of_getElem? hr) hname
  have hlen : r.pattern.matchLength? ('/' :: (v ++ '/' :: u)) = some (regexpLexeme v u).length := by
    rw [hp, Pattern.regexpLiteral_iff]
    exact ⟨v, u, rfl, h, rfl⟩
  have hm : t.choose? p k.stack.top.state k.rest = some ⟨i, r, (regexpLexeme v u).length⟩ := by
    rw [hstack, hrest]
    exact Table.choose?_of_singleton (regexp_alone ht hr hname hmask hlen) p
  have hleave : Scanner.Moves k.loc r.transition (k.skipChars (regexpLexeme v u).length)
      { k.skipChars (regexpLexeme v u).length with stack := j } := by
    rw [hpop]
    refine .pop (q := regexp) ?_
    have := Scanner.leave_push (q := regexp) rfl (k.skipChars (regexpLexeme v u).length) j loc
    rw [← hstack] at this
    exact this
  have hplain : k.stack.top.state.balanced ≠ true := by
    rw [hstack]
    exact Bool.false_ne_true
  refine ⟨_, _, Scanner.step_moves hm hu (fun hb => absurd hb hplain) hleave, ?_, rfl, ?_, rfl, ?_, rfl⟩
  · exact (Table.classify_of_ne _ (by rw [hkind]; decide)).trans hkind
  · show k.rest.take _ = _
    rw [hrest, ← regexpLexeme_append, List.take_left]
  · show k.rest.drop _ = _
    rw [hrest, ← regexpLexeme_append, List.drop_left]

/-- **A regular expression ends at its slash.**  Of a text that begins with a slash the rule takes a regular expression up
to the slash that closes it, with the letters behind it, if there is one, and nothing if there is none.  Where it matches
no other rule of the state does, so that under either policy a step makes one token of it, which the next call hands out
unless regular expressions are hidden, and the state is left. -/
theorem regexp_ends_at_slash (ht : ecmascriptTable = .ok t) :
    t.state? regexpState = some regexp ∧ ∃ i r, t.rule? "regexp-body" = some (i, r) ∧ r.mask.contains regexp = true ∧
      (∀ w n, r.pattern.matchLength? ('/' :: w) = some n ↔
        ∃ v u, w = v ++ '/' :: u ∧ RegexpTo w u ∧ n = (regexpLexeme v u).length) ∧
      (∀ w n, r.pattern.matchLength? ('/' :: w) = some n → t.candidates regexp ('/' :: w) = [⟨i, r, n⟩]) ∧
      ∀ {σ : Type} (s : Session σ) (j : StateStack) (loc : Location) (v u : Text), s.table = t → s.failure = none →
        s.scanner.stack = j.push regexp loc → s.scanner.rest = '/' :: (v ++ '/' :: u) → RegexpTo (v ++ '/' :: u) u →
        ∃ tok s', s.step = (.ok (some tok), s') ∧
          (s.options.skip.contains .regexp = false → s.next.1 = .ok (some tok)) ∧ tok.kind = .regexp ∧ tok.rule = i ∧
          tok.lexeme = regexpLexeme v u ∧ tok.loc = s.scanner.loc ∧ s'.scanner.rest = u.dropWhile Char.isAlpha ∧
          s'.scanner.stack = j := by
  obtain ⟨i, r, hfind, hr, hname, hmask⟩ := exists_regexp_rule ht
  obtain ⟨-, -, -, written, hp⟩ := regexp_rule ht (List.mem_of_getElem? hr) hname
  refine ⟨?_, i, r, hfind, hmask, fun w n => ?_, fun w n => regexp_alone ht hr hname hmask, ?_⟩
  · rw [Table.state?, states_eq_declared (g := .ecmascript) ht]
    rfl
  · rw [hp, Pattern.regexpLiteral_iff]
  · intro σ s j loc v u hs hf hstack hrest h
    obtain ⟨tok, k', hstep, hkind, hrule, hlex, hloc, hrest', hstack'⟩ :=
      closed_regexp_step ht hr hname hmask s.options.policy hstack hrest h
    rw [← hs] at hstep
    refine ⟨tok, { s with scanner := k' }, ?_, ?_, hkind, hrule, hlex, hloc, hrest', hstack'⟩
    · rw [Session.step, hstep]
    · intro hshown
      rw [Session.next_of_token hf hstep (by rw [hkind]; exact hshown)]

/-- Slashes in a class and behind a backslash do not end it, nor does a bracket behind one end the class. -/
theorem slashes_in_class_and_escaped :
    ∃ t s tok s', ecmascriptTable = .ok t ∧
      (Session.new t "/[/\\]]\\//gi.x".toList "t" {} ()).pushState regexpState = .ok s ∧ s.step = (.ok (some tok), s') ∧
      tok.kind = .regexp ∧ tok.lexeme = "/[/\\]]\\//gi".toList ∧ s'.scanner.rest = ".x".toList ∧
      s'.scanner.stack.states = [base] := by
  obtain ⟨t, ht, -⟩ := exists_ok_of_any (beginnings_decided .ecmascript)
  obtain ⟨hregexp, i, r, -, -, -, -, hstep⟩ := regexp_ends_at_slash ht
  have hbase : t.initial = base := initial_eq (g := .ecmascript) ht
  let s := Session.new t "/[/\\]]\\//gi.x".toList "t" {} ()
  have hpush : s.pushState regexpState = .ok { s with scanner := s.scanner.enter regexp s.scanner.loc } := by
    rw [Session.pushState, show s.table.state? regexpState = some regexp from hregexp]
  have hsplit : "/[/\\]]\\//gi.x".toList = '/' :: ("[/\\]]\\/".toList ++ '/' :: "gi.x".toList) := by decide
  have hclosed : RegexpTo ("[/\\]]\\/".toList ++ '/' :: "gi.x".toList) "gi.x".toList :=
    ⟨by decide, by decide, by decide +kernel⟩
  obtain ⟨tok, s', hs', -, hkind, -, hlex, -, hrest, hstack⟩ := hstep
    { s with scanner := s.scanner.enter regexp s.scanner.loc } s.scanner.stack s.scanner.loc _ _ rfl rfl rfl hsplit hclosed
  refine ⟨t, _, tok, s', ht, hpush, hs', hkind, hlex.trans (by decide), hrest.trans (by decide), ?_⟩
  rw [hstack, ← hbase]
  rfl

end Grammar.Ecmascript
end ModalLexer
