import ModalLexer.Proofs.Pairs
import ModalLexer.Proofs.Shapes
/-!
# Delimiters — templates, substitutions and comments in one another

In a text of ECMAScript that is scanned to its end every template, substitution and comment that is opened is closed, in
the order in which brackets are (`delimiters_nest`).  A substitution is closed by a brace, and between its two ends the
brackets match that belong to no template in it (`direct`).  That follows from how the tokens fall into phrases: a phrase
is closed under the blocks that `Tidy.enclose` makes.
-/
namespace ModalLexer

open Scanner (Steps Tracked)

inductive Delimiter
  | template | interpolation | comment
  deriving DecidableEq, Repr

inductive Mark
  | opens (d : Delimiter)
  | closes (d : Delimiter)
  deriving DecidableEq, Repr

/-- **Every mark has its partner.** -/
inductive WellBracketed : List Mark → Prop
  | nil : WellBracketed []
  | wrap {d : Delimiter} {u v : List Mark} (hu : WellBracketed u) (hv : WellBracketed v) :
      WellBracketed (.opens d :: u ++ .closes d :: v)

theorem WellBracketed.append {u v : List Mark} (hu : WellBracketed u) (hv : WellBracketed v) :
    WellBracketed (u ++ v) := by
  induction hu with
  | nil => exact hv
  | wrap hu _ _ ih =>
    rw [List.append_assoc, List.cons_append]
    exact .wrap hu ih

namespace Grammar
namespace Ecmascript

/-- The rules that open and close something. -/
def delimiters : List (String × Mark) := [
  ("template-open", .opens .template), ("template-close", .closes .template),
  ("interpolation-open", .opens .interpolation),
  ("comment-open", .opens .comment), ("comment-close", .closes .comment)]

/-- What a token opens or closes.  A substitution is closed by a brace, which is told by its kind. -/
def mark? (t : Table) (tok : Token) : Option Mark :=
  if tok.kind = .interpolationEnd then some (.closes .interpolation)
  else (t.nameOf? tok).bind fun name => delimiters.lookup name

def marks (t : Table) (toks : List Token) : List Mark := toks.filterMap (mark? t)

/-- The brackets in a list of tokens that are in nothing else which is opened there; `n` things are open before. -/
def direct (t : Table) : (n : Nat) → List Token → BracketWord
  | _, [] => []
  | n, tok :: toks => match mark? t tok with
    | some (.opens _) => direct t (n + 1) toks
    | some (.closes _) => direct t (n - 1) toks
    | none => (if n = 0 then tok.letters else []) ++ direct t n toks

/-- What the end of a substitution is to its beginning, with the tokens between them. -/
structure Closes (t : Table) (o : Token) (inner : List Token) (c : Token) : Prop where
  opened : mark? t o = some (.opens .interpolation)
  lexeme : c.lexeme = ['\x7d']
  nearest : WellBracketed (marks t inner)
  brackets : Nested (direct t 0 inner)

/-- What is opened in a list of tokens is closed in it, and `w` are its direct brackets. -/
structure Tidy (t : Table) (us : List Token) (w : BracketWord) : Prop where
  marked : WellBracketed (marks t us)
  word : ∀ n rest, direct t n (us ++ rest) = (if n = 0 then w else []) ++ direct t n rest
  paired : Matched (·.kind = .interpolationStart) (·.kind = .interpolationEnd) (Closes t) us

variable {t : Table} {us vs toks : List Token} {v w : BracketWord} {tok o c : Token} {d : Delimiter}

namespace Tidy

theorem nil : Tidy t [] [] := ⟨.nil, by simp, .of_none (by simp)⟩

theorem append (h : Tidy t us w) (h' : Tidy t vs v) : Tidy t (us ++ vs) (w ++ v) := by
  refine ⟨?_, ?_, h.paired.append h'.paired⟩
  · rw [marks, List.filterMap_append]
    exact h.marked.append h'.marked
  · intro n rest
    rw [List.append_assoc, h.word, h'.word]
    by_cases hn : n = 0 <;> simp [hn]

theorem direct_eq (h : Tidy t us w) : direct t 0 us = w := by
  have hw := h.word 0 []
  simpa [direct] using hw

theorem single (hm : mark? t tok = none) (hs : tok.kind ≠ .interpolationStart) (he : tok.kind ≠ .interpolationEnd) :
    Tidy t [tok] tok.letters := by
  refine ⟨?_, ?_, .single hs he⟩
  · rw [marks, List.filterMap_cons_none hm]
    exact .nil
  · intro n rest
    simp [direct, hm]

/-- **A block is tidy** if what it holds is. -/
theorem enclose (h : Tidy t us w) (ho : mark? t o = some (.opens d)) (hc : mark? t c = some (.closes d))
    (hs : o.kind = .interpolationStart ↔ d = .interpolation) (hs' : c.kind ≠ .interpolationStart)
    (he : c.kind = .interpolationEnd ↔ d = .interpolation) (he' : o.kind ≠ .interpolationEnd)
    (hi : d = .interpolation → c.lexeme = ['\x7d'] ∧ Nested w) : Tidy t (o :: us ++ [c]) [] := by
  refine ⟨?_, ?_, ?_⟩
  · have hmarks : marks t (o :: us ++ [c]) = .opens d :: marks t us ++ .closes d :: [] := by simp [marks, ho, hc]
    rw [hmarks]
    exact .wrap h.marked .nil
  · intro n rest
    have hinner := h.word (n + 1) (c :: rest)
    rw [if_neg (Nat.succ_ne_zero n), List.nil_append] at hinner
    simp [direct, ho, hc, hinner]
  · by_cases hd : d = .interpolation
    · obtain ⟨hlexeme, hw⟩ := hi hd
      refine h.paired.enclose (hs.2 hd) he' (he.2 hd) hs' ⟨by rw [ho, hd], hlexeme, h.marked, ?_⟩
      rw [h.direct_eq]
      exact hw
    · have hopen : Matched (·.kind = .interpolationStart) (·.kind = .interpolationEnd) (Closes t) [o] :=
        .single (mt hs.1 hd) he'
      have hclose : Matched (·.kind = .interpolationStart) (·.kind = .interpolationEnd) (Closes t) [c] :=
        .single hs' (mt he.1 hd)
      exact (hopen.append h.paired).append hclose

end Tidy

/-! ## The tokens of the grammar -/

/-- What a state is the inside of. -/
def delimiterOf? (q : State) : Option Delimiter :=
  if q = template then some .template
  else if q = interpolation then some .interpolation
  else if q = comment then some .comment
  else none

/-- What the rule of a mover opens or closes. -/
def moverMark? (m : Mover) : Option Mark :=
  match m.transition with
  | .push q => (delimiterOf? q).map .opens
  | .pop => (delimiterOf? m.state).map .closes
  | .stay => none

theorem movers_marked : ∀ m ∈ movers .ecmascript, delimiters.lookup m.rule = moverMark? m ∧
    (m.kind = .interpolationStart ↔ moverMark? m = some (.opens .interpolation)) ∧
    moverMark? m ≠ some (.closes .interpolation) ∧ m.transition ≠ .push base ∧ m.transition ≠ .push regexp := by
  decide

theorem lookup_delimiters {name : String} (h : ∀ m ∈ movers .ecmascript, m.rule ≠ name) :
    delimiters.lookup name = none := by
  have hmovers : ∀ e ∈ delimiters, ∃ m ∈ movers .ecmascript, m.rule = e.1 := by decide
  rw [List.lookup_eq_none_iff]
  intro e he
  obtain ⟨m, hm, hrule⟩ := hmovers e he
  rw [bne_iff_ne, ← hrule]
  exact (h m hm).symm

variable {q q' : State}

theorem mark?_of_mover {m : Mover} (hm : m ∈ movers .ecmascript) (hname : t.nameOf? tok = some m.rule)
    (hkind : tok.kind = m.kind) : mark? t tok = moverMark? m := by
  have hne : tok.kind ≠ .interpolationEnd := hkind ▸ (mover_kind .ecmascript m hm).2.2.1
  rw [mark?, if_neg hne, hname, Option.bind_some]
  exact (movers_marked m hm).1

theorem mark?_of_stay (ht : ecmascriptTable = .ok t) (hq : q ∈ states .ecmascript) (h : t.Makes q .stay tok) :
    mark? t tok = none := by
  have hplain := (made (g := .ecmascript) ht hq h).1 rfl
  rw [mark?, if_neg hplain.ending]
  cases hname : t.nameOf? tok with
  | none => rfl
  | some name =>
    refine lookup_delimiters fun m hm hrule => hplain.name m hm ?_
    rw [hname, hrule]

/-- **What enters a state by a rule opens something.** -/
theorem opened (ht : ecmascriptTable = .ok t) (hq : q ∈ states .ecmascript) (h : t.Makes q (.push q') o) :
    ∃ d, delimiterOf? q' = some d ∧ mark? t o = some (.opens d) ∧ (o.kind = .interpolationStart ↔ d = .interpolation) ∧
      o.kind ≠ .interpolationEnd := by
  have hmoves : Transition.push q' ≠ .stay := by simp
  obtain ⟨-, hq', -⟩ := mem_entered (g := .ecmascript) ht hq h
  obtain ⟨m, hm, -, hr, hname, hkind⟩ := (made (g := .ecmascript) ht hq h).2 hmoves
  obtain ⟨-, hstart, -, hbase, hregexp⟩ := movers_marked m hm
  have hmark : moverMark? m = (delimiterOf? q').map .opens := by rw [moverMark?, hr]
  rw [hr] at hbase hregexp
  have hsome : ∀ q ∈ states .ecmascript, q ≠ base → q ≠ regexp → (delimiterOf? q).isSome = true := by decide
  obtain ⟨d, hd⟩ := Option.isSome_iff_exists.1
    (hsome q' hq' (fun h => hbase (by rw [h])) (fun h => hregexp (by rw [h])))
  rw [hd, Option.map_some] at hmark
  rw [hmark] at hstart
  refine ⟨d, hd, by rw [mark?_of_mover hm hname hkind, hmark], ?_, hkind ▸ (mover_kind .ecmascript m hm).2.2.1⟩
  rw [hkind, hstart]
  simp

/-- **What leaves a state closes what the state is the inside of**, and a substitution is left by a brace. -/
theorem closed (ht : ecmascriptTable = .ok t) (hq : q ∈ states .ecmascript) (h : t.Leaves q v c) :
    mark? t c = (delimiterOf? q).map .closes ∧ c.kind ≠ .interpolationStart ∧
      (c.kind = .interpolationEnd ↔ delimiterOf? q = some .interpolation) ∧
      (delimiterOf? q = some .interpolation → c.lexeme = ['\x7d'] ∧ Nested v) := by
  cases h with
  | rule h =>
    have hmoves : Transition.pop ≠ .stay := by simp
    obtain ⟨m, hm, rfl, hr, hname, hkind⟩ := (made (g := .ecmascript) ht hq h).2 hmoves
    obtain ⟨-, hstart, hclose, -⟩ := movers_marked m hm
    have hmark : moverMark? m = (delimiterOf? m.state).map .closes := by rw [moverMark?, hr]
    have hending := (mover_kind .ecmascript m hm).2.2.1
    have hne : delimiterOf? m.state ≠ some .interpolation := fun hd => hclose (by rw [hmark, hd, Option.map_some])
    refine ⟨by rw [mark?_of_mover hm hname hkind, hmark], ?_, ?_, fun hd => absurd hd hne⟩
    · rw [hkind, ne_eq, hstart, hmark]
      cases delimiterOf? m.state <;> simp
    · rw [hkind]
      exact ⟨fun h => absurd h hending, fun hd => absurd hd hne⟩
  | brace h hw =>
    have hbalanced : ∀ q ∈ states .ecmascript, q.balanced = true → delimiterOf? q = some .interpolation := by decide
    have hd := hbalanced q hq h.balanced
    refine ⟨by rw [mark?, if_pos h.kind, hd, Option.map_some], by rw [h.kind]; decide, ?_, fun _ => ⟨h.lexeme, hw⟩⟩
    exact ⟨fun _ => hd, fun _ => h.kind⟩

/-- **Phrases are tidy.** -/
theorem tidy_phrase (ht : ecmascriptTable = .ok t) (hq : q ∈ states .ecmascript)
    (h : Phrase t (drives .ecmascript true) q us w) : Tidy t us w := by
  induction h with
  | nil => exact .nil
  | stay hm _ ih =>
    have hplain := (made (g := .ecmascript) ht hq hm).1 rfl
    exact (Tidy.single (mark?_of_stay ht hq hm) hplain.start hplain.ending).append (ih hq)
  | @block q q' o c us toks v w ho _ hc _ ihi ih =>
    obtain ⟨-, hq', hletters⟩ := mem_entered (g := .ecmascript) ht hq ho
    obtain ⟨d, hd, hopens, hstart, hne⟩ := opened ht hq ho
    obtain ⟨hcloses, hne', hend, hi⟩ := closed ht hq' hc
    rw [hd] at hcloses hend hi
    have hblock := (ihi hq').enclose hopens hcloses hstart hne' (by simpa using hend) hne (by simpa using hi)
    have happ := hblock.append (ih hq)
    rw [List.append_assoc, List.singleton_append, List.nil_append] at happ
    rwa [hletters]
  | @driven q q' c us toks v w hd hi hc _ ihi ih =>
    -- a regular expression: its state is entered before it and left with it
    obtain ⟨-, -, -, rfl⟩ := hd
    have hq' : regexp ∈ states .ecmascript := by decide
    obtain ⟨hcloses, hne, hend, -⟩ := closed ht hq' hc
    have hletters := leaves_letters (g := .ecmascript) ht hq' hc
    have hnone : delimiterOf? regexp = none := by decide
    rw [hnone] at hcloses hend
    have hv : v = [] := word_eq_nil (g := .ecmascript) ht hq' (by decide) hi
    have hsingle := Tidy.single hcloses hne (by simpa using hend)
    have happ := ((ihi hq').append hsingle).append (ih hq)
    rw [hv, hletters] at happ
    simpa using happ

end Ecmascript

open Ecmascript (marks Closes)

/-- **Delimiters nest.**  In the tokens of a text of ECMAScript that is scanned to its end with nothing hidden, by a
session or with its regular expressions told apart, what templates, substitutions and comments open is closed in the
order of brackets.  Every end of a substitution is a brace and closes the nearest beginning that is open, every beginning
is closed so, and the brackets directly between the two match. -/
theorem delimiters_nest {σ : Type} (source : Text) (name : String) (memory : σ) :
    ∃ t, ecmascriptTable = .ok t ∧ ∀ toks,
      (∃ s, session .ecmascript source name memory = .ok s ∧ (s.setSkip .empty).tokens = .ok toks) ∨
        scan .ecmascript source name true = .ok toks →
      WellBracketed (marks t toks) ∧
        Matched (·.kind = .interpolationStart) (·.kind = .interpolationEnd) (Closes t) toks := by
  obtain ⟨t, ht⟩ := exists_table .ecmascript
  refine ⟨t, ht, fun toks htoks => ?_⟩
  have hphrase : ∃ w, Phrase t (drives .ecmascript true) t.initial toks w := by
    rcases htoks with ⟨s, hs, htoks⟩ | hscan
    · have hs : s = .new t source name {} memory := by
        rw [session, ht] at hs
        exact (Except.ok.inj hs).symm
      obtain ⟨hnone, rfl⟩ := Session.tokens_eq_ok htoks
      have hstart : (s.setSkip .empty).scanner = .start t source name := by rw [hs]; rfl
      have hsound : (s.setSkip .empty).failure = none := by rw [hs]; rfl
      have htable : (s.setSkip .empty).table = t := by rw [hs]; rfl
      rw [← htable] at hstart
      obtain ⟨us, w, hw, hvis⟩ := Session.run_phrase hstart hsound hnone (drives .ecmascript true)
      rw [htable] at hw
      rw [hvis, Session.visible_of_empty rfl]
      exact ⟨w, hw⟩
    · rw [scan_eq, ht] at hscan
      simp only [if_true] at hscan
      split at hscan
      · rename_i h
        cases hscan
        exact scan_phrase (g := .ecmascript) ht h
      · cases hscan
  obtain ⟨w, hw⟩ := hphrase
  have hinitial : t.initial ∈ states .ecmascript := by
    rw [initial_eq ht]
    decide
  have htidy := Ecmascript.tidy_phrase ht hinitial hw
  exact ⟨htidy.marked, htidy.paired⟩

/-- Braces and a comment with another in a substitution: the brace that ends it is the last. -/
theorem braces_in_substitution :
    ∃ t toks, ecmascriptTable = .ok t ∧ scan .ecmascript "`$\x7b\x7b\x7d/*\x7d*/\x7d`".toList "t" true = .ok toks ∧
      toks.map (·.kind) = [.templateDelimiter, .interpolationStart, .punctuator, .punctuator, .comment, .comment,
        .comment, .interpolationEnd, .templateDelimiter] ∧
      WellBracketed (marks t toks) ∧
      ∃ pre o inner c post, toks = pre ++ o :: inner ++ c :: post ∧ pre.length + inner.length = 6 ∧
        o.kind = .interpolationStart ∧ c.kind = .interpolationEnd ∧ Closes t o inner c := by
  have hany : ((scan .ecmascript "`$\x7b\x7b\x7d/*\x7d*/\x7d`".toList "t" true).toOption.any fun toks =>
      decide (toks.map (·.kind) = [.templateDelimiter, .interpolationStart, .punctuator, .punctuator, .comment, .comment,
        .comment, .interpolationEnd, .templateDelimiter])) = true := by decide +kernel
  obtain ⟨t, ht, hnest⟩ := delimiters_nest "`$\x7b\x7b\x7d/*\x7d*/\x7d`".toList "t" ()
  obtain ⟨toks, hscan, hkinds⟩ := exists_ok_of_any hany
  have hkinds := of_decide_eq_true hkinds
  obtain ⟨hmarks, hpairs⟩ := hnest toks (.inr hscan)
  refine ⟨t, toks, ht, hscan, hkinds, hmarks, ?_⟩
  -- the seven tokens before the end of the substitution
  have hlen : (toks.take 7).length = 7 := by
    have hl := congrArg List.length hkinds
    simp only [List.length_map, List.length_cons, List.length_nil] at hl
    rw [List.length_take]
    omega
  have hafter : (toks.drop 7).map (·.kind) = [.interpolationEnd, .templateDelimiter] := by
    rw [List.map_drop, hkinds]
    rfl
  simp only [List.map_eq_cons_iff, List.map_eq_nil_iff] at hafter
  obtain ⟨c, _, hdrop, hc, d, _, rfl, -, rfl⟩ := hafter
  have htoks : toks = toks.take 7 ++ c :: [d] := by rw [← hdrop, List.take_append_drop]
  obtain ⟨pre, o, inner, hpre, ho, hcloses⟩ := hpairs.opened (toks.take 7) c [d] htoks hc
  rw [hpre] at htoks hlen
  refine ⟨pre, o, inner, c, [d], htoks, ?_, ho, hc, hcloses⟩
  rw [List.length_append, List.length_cons] at hlen
  omega

end Grammar
end ModalLexer
