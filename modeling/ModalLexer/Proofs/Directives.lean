import Mathlib.Data.Bool.AllAny
import ModalLexer.Proofs.LogicalLines
import ModalLexer.Proofs.Shapes
/-!
# Directives — where a preprocessor line ends

The expression for directives has a choice at every character, and the most preferred match is wanted.  What a match
leaves behind one unit does not depend on how the others are chosen, because a directive may end anywhere: the repetition
never fails (`Regex.leaves_directiveUnit`).  Only literals have to be gone back over, and those match in one way at most.
So the match ends where the reading of directives stops (`Regex.directiveLine_takes`), and that is the end of the logical
line if nothing slips (`Grammar.C.directive_covers_line`).
-/
namespace ModalLexer

open Regex (Matches)

/-! ## The expression for directives -/

namespace Regex

def lineBreak : Regex := alt (seq (char '\r') (char '\n')) (set (.unions [.single '\n', .single '\r']))

/-- What follows a slash that opens no comment. -/
def noComment : Regex := set (.compl (.unions [.single '/', .single '*', .single '\n', .single '\r']))

/-- A character between single quotes, or an escape within the line. -/
def charUnit : Regex :=
  alt (set (.compl (.unions [.single '\'', .single '\\', .single '\n', .single '\r']))) (seq (char '\\') inLine)

/-- What follows a single quote, up to the one that closes. -/
def charBody : Regex := seq (star true charUnit) (char '\'')

def directiveUnit : Regex :=
  alt (seq (char '"') (closedBody '"'))
    (alt (seq (char '\'') charBody)
      (alt (set (.compl (.unions [.single '\n', .single '\r', .single '\\', .single '/'])))
        (alt (seq (char '\\') lineBreak) (alt (seq (char '\\') inLine) (seq (char '/') noComment)))))

/-- A directive: a number sign, blanks and a word, and its text. -/
def directiveLine : Regex :=
  seq (look .textStart) (seq (char '#') (seq (star true (set (.unions [.single ' ', .single '\t'])))
    (seq (star true (set .word)) (star true directiveUnit))))

variable {c : Char} {b : Option Char} {p q : Cursor} {r : Rest} {f : Text → Text} {t u : Text}

/-! ### Single quotes -/

theorem charBody_iff : (∃ b', Matches charBody ⟨b, t⟩ ⟨b', u⟩) ↔ charStop t = '\'' :: u := by
  rw [charStop_eq]
  exact (lineUnit_follows '\'').closed_iff (Reading.upToItem_closing '\'' (by decide))

/-! ### One unit -/

/-- **A literal leaves what is behind its closing quote**, if the reading says that there is one. -/
theorem leaves_literal {body : Regex} {stop : Text → Text} {d : Char} (hbody : body.isProper = true) (hr : Proper r)
    (hiff : ∀ b t u, (∃ b', Matches body ⟨b, t⟩ ⟨b', u⟩) ↔ stop t = d :: u)
    (hnext : ∀ q : Cursor, q.rest.length ≤ t.length → leaves r q = some (f q.rest)) :
    leaves (body :: r) ⟨b, t⟩ = (closed? d (stop t)).map f := by
  have hbodyFollows : body.Follows fun t => closed? d (stop t) := fun b t u => (hiff b t u).trans closed?_eq_some.symm
  rw [leaves_follows (f := some ∘ f) hbodyFollows hbody hr fun q hq => ?_]
  · exact Option.map_eq_bind.symm
  · obtain ⟨b', hm⟩ := (hbodyFollows b t q.rest).2 hq
    exact hnext q hm.suffix.length_le

/-- A unit by its first character, which leaves two of the ways at most. -/
theorem leaves_directiveUnit_cons (hr : Proper r) (b : Option Char) (c : Char) (t : Text) :
    leaves (directiveUnit :: r) ⟨b, c :: t⟩ =
      if c = '"' then (leaves (closedBody '"' :: r) ⟨some c, t⟩).or (leaves r ⟨some c, t⟩)
      else if c = '\'' then (leaves (charBody :: r) ⟨some c, t⟩).or (leaves r ⟨some c, t⟩)
      else if c = '\\' then (leaves (lineBreak :: r) ⟨some c, t⟩).or (leaves (inLine :: r) ⟨some c, t⟩)
      else if c = '/' then leaves (noComment :: r) ⟨some c, t⟩
      else if c = '\n' ∨ c = '\r' then none
      else leaves r ⟨some c, t⟩ := by
  have hchar (d : Char) (a : Regex) (ha : a.isProper = true) : leaves (char d :: a :: r) ⟨b, c :: t⟩ =
      if c = d then leaves (a :: r) ⟨some c, t⟩ else none := leaves_char d (proper_cons.2 ⟨ha, hr⟩) b c t
  unfold directiveUnit
  rw [leaves_alt, leaves_alt, leaves_alt, leaves_alt, leaves_alt, leaves_seq, leaves_seq, leaves_seq, leaves_seq,
    leaves_seq, hchar _ _ rfl, hchar _ _ rfl, hchar _ _ rfl, hchar _ _ rfl, hchar _ _ rfl, leaves_set _ hr]
  rotate_left
  all_goals try exact proper_cons.2 ⟨rfl, hr⟩
  have hplain : (CharClass.compl (.unions [.single '\n', .single '\r', .single '\\', .single '/'])).contains c =
      !(decide (c = '\n') || (decide (c = '\r') || (decide (c = '\\') || decide (c = '/')))) := by
    simp only [CharClass.contains, CharClass.unions, CharClass.contains_single, eq_comm]
  rw [hplain]
  by_cases hq : c = '"'
  · subst hq
    simp
  by_cases ha : c = '\''
  · subst ha
    simp
  by_cases hb : c = '\\'
  · subst hb
    simp
  by_cases hs : c = '/'
  · subst hs
    simp
  by_cases hn : c = '\n' ∨ c = '\r'
  · rcases hn with rfl | rfl <;> simp
  · simp [hq, ha, hb, hs, not_or.1 hn]

theorem leaves_backslash (hr : Proper r)
    (hnext : ∀ q : Cursor, q.rest.length < t.length + 1 → leaves r q = some (f q.rest)) :
    (leaves (lineBreak :: r) ⟨b, t⟩).or (leaves (inLine :: r) ⟨b, t⟩) = (directiveItem ('\\' :: t)).map f := by
  rw [lineBreak, inLine, leaves_alt (proper_cons.2 ⟨rfl, hr⟩), leaves_seq (proper_cons.2 ⟨rfl, hr⟩)]
  have hn : Proper (char '\n' :: r) := proper_cons.2 ⟨rfl, hr⟩
  rcases t with _ | ⟨c, t⟩
  · rw [char, leaves_set_nil _ hn, leaves_set_nil _ hr, leaves_set_nil _ hr]
    rfl
  have hone : leaves r ⟨some c, t⟩ = some (f t) := hnext _ (by simp only [List.length_cons]; omega)
  have hset : (CharClass.unions [.single '\n', .single '\r']).contains c = decide (c = '\n' ∨ c = '\r') := by
    simp [CharClass.contains, CharClass.unions, eq_comm]
  rw [leaves_char _ hn, leaves_set _ hr, leaves_set _ hr, CharClass.contains, hset, hone]
  by_cases hcrlf : c = '\r' ∧ t.head? = some '\n'
  · obtain ⟨rfl, hhead⟩ := hcrlf
    obtain ⟨u, rfl⟩ := List.head?_eq_some_iff.1 hhead
    rw [if_pos rfl, leaves_char _ hr, if_pos rfl, hnext _ (by simp only [List.length_cons]; omega)]
    rfl
  · rw [directiveItem_backslash fun hr hn => hcrlf ⟨hr, hn⟩]
    have hnone : (if c = '\r' then leaves (char '\n' :: r) ⟨some c, t⟩ else none) = none := by
      split
      · cases t with
        | nil => exact leaves_set_nil _ hr _
        | cons d t =>
          rw [leaves_char _ hr, if_neg]
          rintro rfl
          exact hcrlf ⟨‹_›, rfl⟩
      · rfl
    rw [hnone]
    cases decide (c = '\n' ∨ c = '\r') <;> rfl

/-- **A unit leaves what is behind one item**, if what follows never fails. -/
theorem leaves_directiveUnit (hr : Proper r)
    (hnext : ∀ q : Cursor, q.rest.length < p.rest.length → leaves r q = some (f q.rest)) :
    leaves (directiveUnit :: r) p = (directiveItem p.rest).map f := by
  obtain ⟨b, t⟩ := p
  rcases t with _ | ⟨c, t⟩
  · exact leaves_eq_none rfl hr fun q hq => absurd (hq.shorter rfl) (Nat.not_lt_zero _)
  have hone : leaves r ⟨some c, t⟩ = some (f t) := hnext _ (Nat.lt_succ_self _)
  have hwithin (q : Cursor) (hq : q.rest.length ≤ t.length) : leaves r q = some (f q.rest) :=
    hnext q (Nat.lt_succ_of_le hq)
  rw [leaves_directiveUnit_cons hr, hone]
  by_cases hq : c = '"'
  · subst hq
    rw [if_pos rfl, leaves_literal rfl hr (fun b t u => closedBody_iff (.inl rfl)) hwithin, directiveItem]
    cases closed? '"' (quotedStop '"' t) <;> rfl
  by_cases ha : c = '\''
  · subst ha
    rw [if_neg hq, if_pos rfl, leaves_literal rfl hr (fun b t u => charBody_iff) hwithin, directiveItem]
    cases closed? '\'' (charStop t) <;> rfl
  by_cases hb : c = '\\'
  · subst hb
    rw [if_neg hq, if_neg ha, if_pos rfl]
    exact leaves_backslash hr hnext
  by_cases hs : c = '/'
  · subst hs
    rw [if_neg hq, if_neg ha, if_neg hb, if_pos rfl, noComment]
    rcases t with _ | ⟨d, t⟩
    · exact leaves_set_nil _ hr _
    have hset : (CharClass.compl (.unions [.single '/', .single '*', .single '\n', .single '\r'])).contains d =
        !(['/', '*', '\n', '\r'].contains d) := by
      simp [CharClass.contains, CharClass.unions, eq_comm]
    rw [leaves_set _ hr, directiveItem_slash, hnext _ (by simp only [List.length_cons]; omega), hset]
    cases ['/', '*', '\n', '\r'].contains d <;> rfl
  rw [if_neg hq, if_neg ha, if_neg hb, if_neg hs, directiveItem_plain hb hs (by tauto)]
  split <;> rfl

/-! ### The whole line -/

/-- **Units leave what is left where the reading stops.** -/
theorem leaves_directiveUnits : ∀ p : Cursor, leaves [star true directiveUnit] p = some (directive.stop p.rest)
  | p => by
    rw [leaves_star (by decide), leaves_nil, leaves_directiveUnit (by decide) fun q hq => leaves_directiveUnits q,
      ← directive_item]
    cases hi : directive.item p.rest with
    | none =>
      rw [Reading.stop_of_none hi]
      rfl
    | some u =>
      rw [Reading.stop_of_item hi]
      rfl
termination_by p => p.rest.length

/-- Characters that are items themselves make no difference to where the reading stops. -/
theorem leaves_plain {s : CharClass} (hs : ['"', '\'', '\\', '/', '\n', '\r'].all (fun c => !s.contains c) = true)
    (hr : Proper r) (h : ∀ q, leaves r q = some (directive.stop q.rest)) (p : Cursor) :
    leaves (star true (set s) :: r) p = some (directive.stop p.rest) := by
  refine leaves_of_ends rfl hr ⟨p, .starStop p⟩ fun q hq => ?_
  rw [h q]
  have hone {p q : Cursor} (hq : Matches (set s) p q) : directive.stop p.rest = directive.stop q.rest := by
    cases hq with
    | @set _ b c t hc =>
      have hother {d : Char} (hd : d ∈ ['"', '\'', '\\', '/', '\n', '\r']) : c ≠ d := by
        rintro rfl
        have hno := List.all_eq_true.1 hs c hd
        rw [hc] at hno
        cases hno
      refine Reading.stop_of_item ((directiveItem_plain (hother (by simp)) (hother (by simp)) ?_ t).trans (if_neg ?_))
      · rintro (h | h) <;> exact hother (by simp) h
      · rintro (h | h) <;> exact hother (by simp) h
  have hrounds := matches_star_iff.1 hq
  clear hq
  induction hrounds with
  | refl => rfl
  | tail _ hlast ih => rw [← ih, hone hlast]

/-- **A directive is taken up to where the reading behind the number sign stops.** -/
theorem directiveLine_takes {v u : Text} (h : directive.stop (v ++ u) = u) :
    directiveLine.matchLength? ('#' :: (v ++ u)) = some (v.length + 1) := by
  refine matchLength?_eq_some_iff.2 ⟨by simp, ?_⟩
  rw [List.drop_succ_cons, List.drop_left, directiveLine, leaves_seq (by decide), leaves_look (by decide) rfl]
  rw [leaves_seq (by decide), leaves_char _ (by decide), if_pos rfl, leaves_seq (by decide)]
  rw [leaves_plain (by decide +kernel) (by decide), h]
  intro q
  rw [leaves_seq (by decide)]
  exact leaves_plain (by decide +kernel) (by decide) leaves_directiveUnits q

end Regex

/-! ## The grammar -/

namespace Grammar.C

variable {t : Table} {v u : Text}

theorem preprocessor_sole : Sole .c ⟨base, ['#'], "preprocessor"⟩ .preprocessor .directiveLine where
  mem := by simp [reserved]
  text := by simp
  kind := by decide
  eligible := by decide +kernel
  spec := by decide +kernel

/-- **At a number sign a step takes the text up to where the reading of directives stops.** -/
theorem directive_step (ht : cTable = .ok t) {k : Scanner} (hstop : directive.stop (v ++ u) = u)
    (hk : k.stack.top.state = base) (hr : k.rest = '#' :: v ++ u) :
    ∃ tok, k.step t .longest = .token tok (k.skipChars ('#' :: v).length) ∧ tok.kind = .preprocessor ∧
      tok.lexeme = '#' :: v ∧ tok.loc = k.loc ∧ (k.skipChars ('#' :: v).length).rest = u := by
  refine step_sole (g := .c) ht preprocessor_sole (List.prefix_append ['#'] v) (fun w => ?_) hk hr
  rw [Pattern.matchLength?, List.cons_append, Regex.directiveLine_takes hstop]
  simp

/-- **A directive covers its logical line**, unless something slips.  At a number sign the step makes a token of the text
up to where the reading of directives stops, and that is where the logical line ends, if nothing slips on the way.  In
particular a line without quotes, backslashes and comments that does not end with a slash is a single token. -/
theorem directive_covers_line (ht : cTable = .ok t) :
    (∀ {σ : Type} (s : Session σ) (w : Text), s.table = t → s.options.policy = .longest → s.failure = none →
      s.scanner.stack.top.state = base → s.scanner.rest = '#' :: w →
      ∃ v tok s', w = v ++ directive.stop w ∧ s.step = (.ok (some tok), s') ∧
        (s.options.skip.contains .preprocessor = false → s.next.1 = .ok (some tok)) ∧ tok.kind = .preprocessor ∧
        tok.lexeme = '#' :: v ∧ tok.loc = s.scanner.loc ∧ s'.scanner.rest = directive.stop w ∧
        s'.scanner.stack = s.scanner.stack) ∧
    (∀ w, (∀ u ∈ logicalLine.places w, slips u = false) →
      directive.stop w = logicalLine.stop w ∧ EndsLine (directive.stop w)) ∧
    ∀ d name, PlainLine d →
      ∃ tok, tokenize .c ('#' :: d) name = .ok [tok] ∧ tok.kind = .preprocessor ∧ tok.lexeme = '#' :: d := by
  refine ⟨fun s w hs hp hf hq hr => ?_, fun w hw => ?_, fun d name hd => ?_⟩
  · obtain ⟨v, hv⟩ := directive.stop_suffix w
    obtain ⟨tok, hstep, hkind, hlex, hloc, hrest⟩ := directive_step (v := v) ht (by rw [hv]) hq
      (hr.trans (congrArg ('#' :: ·) hv.symm))
    rw [← hs, ← hp] at hstep
    refine ⟨v, tok, { s with scanner := s.scanner.skipChars ('#' :: v).length }, hv.symm, ?_, ?_, hkind, hlex, hloc,
      hrest, rfl⟩
    · rw [Session.step, hstep]
    · intro hshown
      rw [Session.next_of_token hf hstep (by rw [hkind]; exact hshown)]
  · have hstop := directive_stop w hw
    exact ⟨hstop, hstop ▸ endsLine_of_none (logicalLine.item_stop w)⟩
  · have hbase : (Scanner.start t ('#' :: d) name).stack.top.state = base := initial_eq (g := .c) ht
    have hstop : directive.stop (d ++ []) = [] := by rw [List.append_nil, directive_stop d hd.places, hd.stop]
    have hwhole : (Scanner.start t ('#' :: d) name).rest = '#' :: d ++ [] := by rw [List.append_nil]; rfl
    obtain ⟨tok, hstep, hkind, hlex, -, hrest⟩ := directive_step ht hstop hbase hwhole
    refine ⟨tok, tokenize_of_steps (g := .c) ht (.cons hstep (.nil _)) hrest rfl fun tok' htok => ?_, hkind, hlex⟩
    rw [List.mem_singleton.1 htok, hkind]
    rfl

/-- A continuation and a comment between quotes before the comment that ends the line, and slashes that are no comment. -/
theorem comment_ends_directive :
    ∃ t, cTable = .ok t ∧
      (∃ tok s', (Session.new t "#d \\\n \"//\" a/b // c".toList "t" {} ()).step = (.ok (some tok), s') ∧
        tok.kind = .preprocessor ∧ s'.scanner.rest = "// c".toList) ∧
      ∃ tok, tokenize .c "#if a/b".toList "t" = .ok [tok] ∧ tok.lexeme = "#if a/b".toList := by
  obtain ⟨t, ht, -⟩ := exists_ok_of_any (beginnings_decided .c)
  have hbase : t.initial = base := initial_eq (g := .c) ht
  obtain ⟨hstep, hline, hplain⟩ := directive_covers_line ht
  have hagree := (hline "d \\\n \"//\" a/b // c".toList (by decide +kernel)).1
  have hstop : logicalLine.stop "d \\\n \"//\" a/b // c".toList = "// c".toList := by decide +kernel
  obtain ⟨v, tok, s', -, htok, -, hkind, -, -, hrest, -⟩ := hstep
    (Session.new t "#d \\\n \"//\" a/b // c".toList "t" {} ()) "d \\\n \"//\" a/b // c".toList rfl rfl rfl hbase rfl
  obtain ⟨tok', htok', -, hlex'⟩ := hplain "if a/b".toList "t"
    ⟨List.all_iff_forall_prop.1 (by decide), by decide, by decide, by decide⟩
  exact ⟨t, ht, ⟨tok, s', htok, hkind, hrest.trans (hagree.trans hstop)⟩, tok', htok', hlex'⟩

/-- **A slash ends a directive at the end of its line, and hides a quote behind it**, so that a comment between quotes
ends it as well. -/
theorem slash_cuts_directive :
    ((tokenize .c "#/".toList "t").toOption.map (·.map fun tok => (tok.kind, tok.lexeme)) =
      some [(.preprocessor, "#".toList), (.punctuator, "/".toList)]) ∧
    (tokenize .c "#d /\"//\"".toList "t").toOption.map (·.map fun tok => (tok.kind, tok.lexeme)) =
      some [(.preprocessor, "#d /\"".toList)] := by
  decide +kernel

end Grammar.C

end ModalLexer
