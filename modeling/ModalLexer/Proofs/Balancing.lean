import ModalLexer.Proofs.Tiling
import ModalLexer.Proofs.Nesting
/-!
# Balancing — brackets match within each state

Every entered state has a word of its own: the brackets taken as punctuators while it was innermost (`Scanner.words`).
The scanner keeps no such words.  It keeps a record of open brackets for each balanced state above the bottom, and a
bracket goes to the first record, whichever state that belongs to.  `Kept` is why that is right: records and states
correspond, and each record holds exactly the openers that have no partner in the word of its state.  Whatever happens
to a scanner keeps it (`Kept.change`), and it settles what becomes of the next bracket (`brackets_match_per_state`).
-/
namespace ModalLexer

open Brackets (closerFor? isOpener isCloser)

/-- The closer is the partner of the innermost of the openers, which stand with the outermost first. -/
def Fits (c : Char) (os : List OpenBracket) : Prop := ∃ o, os.getLast? = some o ∧ closerFor? o.bracket = some c

/-! ## One bracket -/

namespace Brackets

variable {b : Brackets} {c : Char} {loc : Location} {w : BracketWord}

theorem pass_opener (hc : isOpener c = true) : b.pass c loc = .ok (false, b.push c loc) := if_pos hc

theorem pass_other (ho : isOpener c = false) (hc : isCloser c = false) : b.pass c loc = .ok (false, b) := by
  simp [pass, ho, hc]

theorem pass_end (hb : b.opened = []) : b.pass '\x7d' loc = .ok (true, b) := by
  have hd : b.depth = 0 := by rw [depth, hb, List.length_nil]
  rw [pass, if_neg (by decide), if_neg (by decide), if_pos ⟨rfl, hd⟩]

theorem pass_partner {o : OpenBracket} {os : List OpenBracket} (hb : b.opened = o :: os)
    (hc : closerFor? o.bracket = some c) : b.pass c loc = .ok (false, ⟨os⟩) := by
  obtain ⟨h1, h2⟩ := closer_of_fits hc
  have hd : b.depth ≠ 0 := by rw [depth, hb, List.length_cons]; omega
  simp [pass, h1, h2, hd, close, hb, hc]

/-- A closer that fits has its opener at the head of the record. -/
theorem fits_reverse_iff : Fits c b.opened.reverse ↔ ∃ o os, b.opened = o :: os ∧ closerFor? o.bracket = some c := by
  unfold Fits
  rw [List.getLast?_reverse]
  cases b.opened with
  | nil => simp
  | cons o os => simp

/-- **Any other closer is a mismatch**, and the innermost opener is to blame if there is one. -/
theorem pass_mismatch (loc : Location) (hc : isCloser c = true) (hend : ¬(c = '\x7d' ∧ b.opened = []))
    (hfit : ¬Fits c b.opened.reverse) :
    ∃ e, b.pass c loc = .error e ∧ e.cause.kind = .balancerMismatch ∧
      e.loc = (b.opened.head?.map (·.loc)).getD loc := by
  have ho : isOpener c = false := by
    unfold isCloser at hc
    simp only [Bool.or_eq_true, beq_iff_eq] at hc
    rcases hc with (rfl | rfl) | rfl <;> decide
  have hend' : ¬(c = '\x7d' ∧ b.depth = 0) := by rwa [depth, List.length_eq_zero_iff]
  rw [pass, if_neg (by simp [ho]), if_neg (by simp [hc]), if_neg hend', close]
  rw [fits_reverse_iff] at hfit
  cases hb : b.opened with
  | nil => exact ⟨_, rfl, rfl, rfl⟩
  | cons o os =>
    simp only [if_neg fun hco => hfit ⟨o, os, hb, hco⟩]
    exact ⟨_, rfl, rfl, rfl⟩

/-- The bracket as a letter of a word. -/
def letters (c : Char) (loc : Location) : BracketWord := if isOpener c || isCloser c then [(c, loc)] else []

/-- **A record keeps the openers without a partner**, unless the bracket ends the state. -/
theorem pass_unmatched {ends : Bool} {b' : Brackets} (hw : Unmatched w b.opened.reverse)
    (h : b.pass c loc = .ok (ends, b')) :
    Unmatched (w ++ if ends then [] else letters c loc) b'.opened.reverse := by
  cases ho : isOpener c with
  | true =>
    rw [pass_opener ho] at h
    cases h
    simp only [letters, ho, Bool.true_or, if_true, Bool.false_eq_true, if_false, push, List.reverse_cons]
    exact hw.snoc_opener ho
  | false =>
    cases hc : isCloser c with
    | false =>
      rw [pass_other ho hc] at h
      cases h
      simpa [letters, ho, hc] using hw
    | true =>
      by_cases hend : c = '\x7d' ∧ b.opened = []
      · obtain ⟨rfl, hb⟩ := hend
        rw [pass_end hb] at h
        cases h
        rw [if_pos rfl, List.append_nil]
        exact hw
      · by_cases hfit : Fits c b.opened.reverse
        · obtain ⟨o, os, hos, hco⟩ := fits_reverse_iff.1 hfit
          rw [pass_partner hos hco] at h
          cases h
          rw [hos, List.reverse_cons] at hw
          simp only [letters, ho, hc, Bool.or_true, if_true, Bool.false_eq_true, if_false]
          exact hw.snoc_closer hco
        · obtain ⟨e, he, -⟩ := pass_mismatch loc hc hend hfit
          rw [he] at h
          cases h

end Brackets
/-! ## The word of each state -/

/-- What a token adds to the word of the state it was taken in: itself, if it is a punctuator that is a bracket. -/
def Token.letters (tok : Token) : BracketWord :=
  match tok.kind, tok.lexeme with
  | .punctuator, [c] => Brackets.letters c tok.loc
  | _, _ => []

namespace Scanner

/-- The words of the entered states after a transition, the innermost state first. -/
def shift (r : Transition) (ws : List BracketWord) : List BracketWord :=
  match r with
  | .stay => ws
  | .push _ => [] :: ws
  | .pop => ws.tail

def note (tok : Token) : List BracketWord → List BracketWord
  | [] => []
  | w :: ws => (w ++ tok.letters) :: ws

/-- The words after one more event. -/
def Event.extend (ws : List BracketWord) : Event → List BracketWord
  | .took tok r => shift r (note tok ws)
  | .drove r => shift r ws
  | .ended => ws
  | .failed _ => ws

/-- **The words of the entered states**, the innermost state first and the bottom last: for each the brackets taken as
punctuators while it was innermost. -/
def words (es : List Event) : List BracketWord := es.foldl Event.extend [[]]

theorem words_concat (es : List Event) (e : Event) : words (es ++ [e]) = e.extend (words es) := by
  rw [words, List.foldl_append]
  rfl

/-- The record of the state at a depth from the top, if there is one: the records of the balanced states above it come
before it. -/
def recordAt? (s : Scanner) (i : Nat) : Option Brackets :=
  s.records[(s.stack.frames.take i).countP (·.state.balanced)]?

/-- **States, words and records correspond.**  A balanced state above the bottom has a record, which holds the openers
without a partner in the word of that state; other states have none. -/
inductive Kept : List Frame → List BracketWord → List Brackets → Prop
  | bottom (f : Frame) (w : BracketWord) : Kept [f] [w] []
  | balanced {f : Frame} {w : BracketWord} {b : Brackets} {fs : List Frame} {ws : List BracketWord}
      {bs : List Brackets} (hf : f.state.balanced = true) (hw : Unmatched w b.opened.reverse) (h : Kept fs ws bs) :
      Kept (f :: fs) (w :: ws) (b :: bs)
  | plain {f : Frame} {w : BracketWord} {fs : List Frame} {ws : List BracketWord} {bs : List Brackets}
      (hf : f.state.balanced = false) (h : Kept fs ws bs) : Kept (f :: fs) (w :: ws) bs

variable {t : Table} {s s' : Scanner} {ws : List BracketWord}

/-- In a balanced state a punctuator of one character passes through the first record. -/
theorem balance_eq_pass {b : Brackets} {bs : List Brackets} {c : Char} (hb : s.stack.top.state.balanced = true)
    (hr : s.records = b :: bs) :
    s.balance .punctuator [c] = (b.pass c s.loc).map fun r => (r.1, r.2 :: bs) := by
  unfold balance
  rw [hb, hr]

theorem letters_of_other {tok : Token} (h : ¬(tok.kind = .punctuator ∧ ∃ c, tok.lexeme = [c])) : tok.letters = [] := by
  unfold Token.letters
  split
  · rename_i hk hl
    exact absurd ⟨hk, _, hl⟩ h
  · rfl

theorem letters_token {m : Match} {c : Char} (hk : s.kindOf t m = .punctuator) (hl : s.lexeme m = [c]) (ends : Bool) :
    (s.token t m ends).letters = if ends then [] else Brackets.letters c s.loc := by
  unfold Token.letters token
  cases ends <;> simp [hk, hl]

/-- **A match taken keeps the correspondence** before the stack changes. -/
theorem Kept.note {m : Match} {ends : Bool} {records : List Brackets} (h : Kept s.stack.frames ws s.records)
    (hb : s.balance (s.kindOf t m) (s.lexeme m) = .ok (ends, records)) :
    Kept s.stack.frames (note (s.token t m ends) ws) records := by
  generalize hfs : s.stack.frames = fs at h ⊢
  generalize hrs : s.records = bs at h
  cases h with
  | bottom f w =>
    rw [balance_of_other fun ho => ho.2.2.2 hrs] at hb
    cases hb
    rw [hrs]
    exact .bottom _ _
  | @plain f w fs ws bs hf h =>
    obtain ⟨rfl, -⟩ := List.cons.inj hfs
    rw [balance_of_other fun ho => by rw [hf] at ho; exact Bool.false_ne_true ho.2.2.1] at hb
    cases hb
    rw [hrs]
    exact .plain hf h
  | @balanced f w b fs ws bs hf hw h =>
    obtain ⟨rfl, -⟩ := List.cons.inj hfs
    by_cases ho : s.kindOf t m = .punctuator ∧ ∃ c, s.lexeme m = [c]
    · obtain ⟨hk, c, hc⟩ := ho
      rw [hk, hc, balance_eq_pass hf hrs] at hb
      cases hp : b.pass c s.loc with
      | error e => rw [hp] at hb; cases hb
      | ok r =>
        rw [hp] at hb
        cases hb
        refine .balanced hf ?_ h
        rw [letters_token hk hc]
        exact Brackets.pass_unmatched hw hp
    · rw [balance_of_other fun h => ho ⟨h.1, h.2.1⟩] at hb
      cases hb
      rw [hrs]
      refine .balanced hf ?_ h
      rw [letters_of_other ho, List.append_nil]
      exact hw

/-- **A change of the stack keeps the correspondence.** -/
theorem Moves.kept {loc : Location} {r : Transition} (hm : Moves loc r s s') (h : Kept s.stack.frames ws s.records) :
    Kept s'.stack.frames (shift r ws) s'.records := by
  cases hm with
  | stay => exact h
  | push q =>
    unfold enter
    cases hq : q.balanced with
    | true => exact .balanced hq (.nested .nil) h
    | false => exact .plain hq h
  | pop hl =>
    obtain ⟨k, hk, rfl⟩ := leave_eq_ok.1 hl
    obtain ⟨rfl, hfs⟩ := StateStack.frames_of_pop? hk
    generalize hrs : s.records = bs at h ⊢
    rw [hfs] at h
    cases h with
    | balanced hf _ h => simp only [hf]; exact h
    | plain hf h => simp only [hf]; exact h

theorem Kept.records_of_bottom {fs : List Frame} {bs : List Brackets} (h : Kept fs ws bs) (hf : fs.length = 1) :
    bs = [] := by
  cases h with
  | bottom => rfl
  | balanced _ _ h => cases h <;> simp at hf
  | plain _ h => cases h <;> simp at hf

/-- **Whatever happens to a scanner keeps the correspondence.** -/
theorem Kept.change {e : Event} (h : Kept s.stack.frames ws s.records) (hc : Change t s e s') :
    Kept s'.stack.frames (e.extend ws) s'.records := by
  cases hc with
  | take _ _ hb hmv => exact hmv.kept (h.note hb)
  | drive hm => exact hm.kept h
  | finish hs =>
    obtain ⟨-, -, rfl⟩ := step_finish_iff.1 hs
    exact h
  | fail hs =>
    rcases step_fail hs with ⟨rfl, -⟩ | ⟨m, ends, records, -, -, hb, -, hd, rfl, -⟩
    · exact h
    · -- the bottom state has no record that the match could have changed
      have hr : s.records = [] := h.records_of_bottom (congrArg (· + 1) hd)
      rw [balance_of_other fun ho => ho.2.2.2 hr] at hb
      cases hb
      exact h

theorem History.kept {source : Text} {name : String} {es : List Event}
    (h : History t (.start t source name) es s) : Kept s.stack.frames (words es) s.records := by
  induction h with
  | start => exact .bottom _ _
  | snoc _ hc ih =>
    rw [words_concat]
    exact ih.change hc

theorem Kept.record {fs : List Frame} {bs : List Brackets} (h : Kept fs ws bs) :
    ∀ {i : Nat} {f : Frame}, i + 1 < fs.length → fs[i]? = some f → f.state.balanced = true →
      ∃ w b, ws[i]? = some w ∧ bs[(fs.take i).countP (·.state.balanced)]? = some b ∧ Unmatched w b.opened.reverse := by
  induction h with
  | bottom f w => intro i g hi; simp at hi
  | @balanced f w b fs ws bs hf hw _ ih =>
    intro i g hi hg hb
    cases i with
    | zero => exact ⟨w, b, rfl, rfl, hw⟩
    | succ i =>
      obtain ⟨v, c, hv, hc, hvc⟩ := ih (Nat.lt_of_succ_lt_succ hi) hg hb
      refine ⟨v, c, hv, ?_, hvc⟩
      rw [List.take_succ_cons, List.countP_cons_of_pos (by simpa using hf), List.getElem?_cons_succ]
      exact hc
  | @plain f w fs ws bs hf _ ih =>
    intro i g hi hg hb
    cases i with
    | zero =>
      cases hg
      rw [hf] at hb
      cases hb
    | succ i =>
      obtain ⟨v, c, hv, hc, hvc⟩ := ih (Nat.lt_of_succ_lt_succ hi) hg hb
      refine ⟨v, c, hv, ?_, hvc⟩
      rw [List.take_succ_cons, List.countP_cons_of_neg (by simp [hf])]
      exact hc

/-! ## The next bracket -/

/-- The match that wins next is a punctuator of one character, of a rule that makes tokens. -/
structure Next (t : Table) (p : Policy) (s : Scanner) (m : Match) (c : Char) : Prop where
  wins : t.choose? p s.stack.top.state s.rest = some m
  makes : m.rule.unterminated = false
  kind : s.kindOf t m = .punctuator
  lexeme : s.lexeme m = [c]

/-- Above the bottom every transition goes through. -/
theorem exists_moves (loc : Location) (r : Transition) (hd : 0 < s.stack.depth) : ∃ s', Moves loc r s s' := by
  cases r with
  | stay => exact ⟨s, .stay _⟩
  | push q => exact ⟨_, .push q _⟩
  | pop =>
    cases hl : s.leave with
    | ok r => exact ⟨r.2, .pop hl⟩
    | error e =>
      obtain ⟨h0, -⟩ := leave_eq_error.1 hl
      omega

variable {p : Policy} {m : Match} {c : Char} {b : Brackets} {bs : List Brackets}

/-- The next bracket makes a token unless it is a mismatch. -/
theorem Next.token {ends : Bool} {b' : Brackets} (h : Next t p s m c) (hd : 0 < s.stack.depth)
    (hb : s.stack.top.state.balanced = true) (hr : s.records = b :: bs) (hp : b.pass c s.loc = .ok (ends, b')) :
    ∃ s', s.step t p = .token (s.token t m ends) s' ∧
      (ends = true → s.stack.frames = s.stack.top :: s'.stack.frames) := by
  have hbal : s.balance (s.kindOf t m) (s.lexeme m) = .ok (ends, b' :: bs) := by
    rw [h.kind, h.lexeme, balance_eq_pass hb hr, hp]
    rfl
  obtain ⟨s', hmv⟩ := exists_moves (s := { s with records := b' :: bs }.skipChars m.length) s.loc
    (if ends then .pop else m.rule.transition) hd
  refine ⟨s', step_token_iff.2 ⟨m, ends, _, h.wins, h.makes, hbal, rfl, hmv⟩, ?_⟩
  rintro rfl
  cases hmv with
  | pop hl =>
    obtain ⟨k, hk, rfl⟩ := leave_eq_ok.1 hl
    exact (StateStack.frames_of_pop? hk).2

theorem Next.fail {e : ScanError} (h : Next t p s m c) (hb : s.stack.top.state.balanced = true)
    (hr : s.records = b :: bs) (hp : b.pass c s.loc = .error e) : s.step t p = .fail e s := by
  rw [step_of_match h.wins, take, if_neg (by rw [h.makes]; exact Bool.false_ne_true), h.kind, h.lexeme,
    balance_eq_pass hb hr, hp]
  rfl

/-- The word of the innermost state, where that is balanced, and the record it belongs to. -/
theorem History.top {source : Text} {name : String} {es : List Event} {w : BracketWord} {os : List OpenBracket}
    (h : History t (.start t source name) es s) (hd : 0 < s.stack.depth) (hb : s.stack.top.state.balanced = true)
    (hw : (words es)[0]? = some w) (hos : Unmatched w os) : ∃ b bs, s.records = b :: bs ∧ os = b.opened.reverse := by
  obtain ⟨v, b, hv, hr, hvb⟩ := h.kept.record (i := 0) (Nat.succ_lt_succ hd) rfl hb
  obtain rfl : w = v := Option.some.inj (hw.symm.trans hv)
  obtain ⟨bs, hbs⟩ := List.head?_eq_some_iff.1 (List.head?_eq_getElem?.trans hr)
  exact ⟨b, bs, hbs, hos.unique hvb⟩

/-- **Brackets match within each balanced state.**  Every session has a history.  Along any history, the word of a
balanced state above the bottom is the beginning of a nested word, and the record of that state holds the openers
without a partner in it, each with the place of its token.  The next bracket of such a state, while it is innermost, is
a punctuator if it opens or fits; a closing brace that finds nothing open ends the state, whatever its rule says; and
any other closer fails at the innermost opener, or where it stands if there is none. -/
theorem brackets_match_per_state {σ : Type} (t : Table) (source : Text) (name : String) (o : Options) (memory : σ)
    (cs : List (Call σ)) :
    (∃ es, History t (.start t source name) es ((Session.new t source name o memory).calls cs).2.scanner) ∧
    ∀ (es : List Event) (s : Scanner), History t (.start t source name) es s →
      (∀ (i : Nat) (f : Frame), i < s.stack.depth → s.stack.frames[i]? = some f → f.state.balanced = true →
        ∃ w b, (words es)[i]? = some w ∧ s.recordAt? i = some b ∧ Unmatched w b.opened.reverse ∧
          ∃ v, Nested (w ++ v)) ∧
      ∀ (p : Policy) (m : Match) (c : Char) (w : BracketWord) (os : List OpenBracket),
        Next t p s m c → 0 < s.stack.depth → s.stack.top.state.balanced = true → (words es)[0]? = some w →
        Unmatched w os →
        (isOpener c = true ∨ Fits c os →
          ∃ tok s', s.step t p = .token tok s' ∧ tok.kind = .punctuator ∧ tok.rule = m.index ∧ tok.lexeme = [c] ∧
            tok.loc = s.loc) ∧
        (c = '\x7d' → os = [] →
          ∃ tok s', s.step t p = .token tok s' ∧ tok.kind = .interpolationEnd ∧ tok.rule = m.index ∧
            tok.lexeme = [c] ∧ tok.loc = s.loc ∧ s.stack.frames = s.stack.top :: s'.stack.frames) ∧
        (isCloser c = true → ¬Fits c os → ¬(c = '\x7d' ∧ os = []) →
          ∃ e, s.step t p = .fail e s ∧ e.cause.kind = .balancerMismatch ∧
            e.loc = (os.getLast?.map (·.loc)).getD s.loc) := by
  refine ⟨?_, fun es s hs => ⟨fun i f hi hf hb => ?_, fun p m c w os hn hd hb hw hos => ?_⟩⟩
  · obtain ⟨es, hes, -, -⟩ := Session.calls_history cs (Session.new t source name o memory)
    exact ⟨es, hes⟩
  · obtain ⟨w, b, hw, hr, hwb⟩ := hs.kept.record (Nat.succ_lt_succ hi) hf hb
    exact ⟨w, b, hw, hr, hwb, hwb.completes⟩
  · obtain ⟨b, bs, hr, rfl⟩ := hs.top hd hb hw hos
    have punctuator {b' : Brackets} (hp : b.pass c s.loc = .ok (false, b')) :
        ∃ tok s', s.step t p = .token tok s' ∧ tok.kind = .punctuator ∧ tok.rule = m.index ∧ tok.lexeme = [c] ∧
          tok.loc = s.loc := by
      obtain ⟨s', hs', -⟩ := hn.token hd hb hr hp
      exact ⟨_, s', hs', hn.kind, rfl, hn.lexeme, rfl⟩
    refine ⟨?_, ?_, fun hc hfit hend => ?_⟩
    · rintro (ho | hfit)
      · exact punctuator (Brackets.pass_opener ho)
      · obtain ⟨o, os, hos, hco⟩ := Brackets.fits_reverse_iff.1 hfit
        exact punctuator (Brackets.pass_partner hos hco)
    · rintro rfl hnil
      obtain ⟨s', hs', hpop⟩ := hn.token hd hb hr (Brackets.pass_end (List.reverse_eq_nil_iff.1 hnil))
      exact ⟨_, s', hs', rfl, rfl, hn.lexeme, rfl, hpop rfl⟩
    · rw [List.reverse_eq_nil_iff] at hend
      obtain ⟨e, he, hkind, hloc⟩ := Brackets.pass_mismatch s.loc hc hend hfit
      rw [List.getLast?_reverse]
      exact ⟨e, hn.fail hb hr he, hkind, hloc⟩

/-- A template in parentheses in a substitution of another: the parenthesis waits in the outer substitution, and the
brace ends the inner one. -/
theorem nested_templates_match :
    let text := "`$\x7b(`$\x7bx\x7d`)\x7d`".toList
    let s := ((Session.new Sample.table text "t" {} ()).calls [.next, .next, .next, .next, .next, .next]).2.scanner
    ∃ es w, History Sample.table (.start Sample.table text "t") es s ∧ (words es)[2]? = some w ∧
      Unmatched w [⟨'(', ⟨3, 1, 4, "t"⟩⟩] ∧
      ∃ tok s', s.step Sample.table .longest = .token tok s' ∧ tok.kind = .interpolationEnd ∧
        s.stack.frames = s.stack.top :: s'.stack.frames := by
  intro text s
  obtain ⟨⟨es, hes⟩, h⟩ := brackets_match_per_state Sample.table text "t" {} ()
    [.next, .next, .next, .next, .next, .next]
  change History _ _ es s at hes
  obtain ⟨hw, hn⟩ := h es s hes
  have hr2 : s.recordAt? 2 = some ⟨[⟨'(', ⟨3, 1, 4, "t"⟩⟩]⟩ := by decide
  have hr0 : s.recordAt? 0 = some ⟨[]⟩ := by decide
  obtain ⟨w, b, hw2, hb2, hwb, -⟩ := hw 2 ⟨⟨2, "INTERPOLATION", true⟩, ⟨1, 1, 2, "t"⟩⟩ (by decide) (by decide) rfl
  obtain ⟨v, a, hv, ha, hva, -⟩ := hw 0 ⟨⟨2, "INTERPOLATION", true⟩, ⟨5, 1, 6, "t"⟩⟩ (by decide) (by decide) rfl
  obtain rfl := Option.some.inj (hr2.symm.trans hb2)
  obtain rfl := Option.some.inj (hr0.symm.trans ha)
  have hwins : (Sample.table.choose? .longest s.stack.top.state s.rest).map
      (fun m => (m.rule.unterminated, s.kindOf Sample.table m, s.lexeme m)) = some (false, .punctuator, ['\x7d']) := by
    decide
  obtain ⟨m, hm, hmk⟩ := Option.map_eq_some_iff.1 hwins
  simp only [Prod.mk.injEq] at hmk
  obtain ⟨-, hend, -⟩ := hn .longest m '\x7d' v [] ⟨hm, hmk.1, hmk.2.1, hmk.2.2⟩ (by decide) (by decide) hv hva
  obtain ⟨tok, s', hstep, hkind, -, -, -, hpop⟩ := hend rfl rfl
  exact ⟨es, w, hes, hw2, hwb, tok, s', hstep, hkind, hpop⟩

end Scanner
end ModalLexer
