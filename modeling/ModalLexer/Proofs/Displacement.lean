import ModalLexer.Proofs.Openings
import ModalLexer.Proofs.Running
/-!
# Displacement — a scan depends on the rest of the text alone

What lies behind a scanner does not come back.  Where no state is entered nothing of it is left but the place: no rule
looks back, no bracket is open, and the frame at the bottom is never blamed.  So a scan of the whole text goes on from
such a place as a scan of the rest does from its beginning, with the same tokens and to the same end, and every location
is displaced by the text before that place (`rest_decides`).  Only the first line of the rest has its columns moved,
since it continues a line (`Location.shift_advance`).
-/
namespace ModalLexer

namespace Location

/-- A location in a text that stands behind `base` itself. -/
def shift (base l : Location) : Location :=
  { l with
    offset := l.offset + base.offset
    line := l.line + (base.line - 1)
    column := if l.line = 1 then l.column + (base.column - 1) else l.column }

variable {base l : Location}

theorem advanceChar_line_pos (c : Char) (h : 0 < l.line) : 0 < (l.advanceChar c).line := by
  unfold advanceChar
  split
  · exact Nat.succ_pos _
  · exact h

theorem advance_line_pos : ∀ (t : Text) {l : Location}, 0 < l.line → 0 < (l.advance t).line
  | [], _, h => h
  | c :: t, _, h => advance_line_pos t (advanceChar_line_pos c h)

theorem advance_column_pos : ∀ (t : Text) {l : Location}, 0 < l.column → 0 < (l.advance t).column
  | [], _, h => h
  | c :: t, l, _ => by
    have hnext : 0 < (l.advanceChar c).column := by
      unfold advanceChar
      split <;> simp
    exact advance_column_pos t hnext

theorem shift_advanceChar (c : Char) (h : 0 < l.line) : base.shift (l.advanceChar c) = (base.shift l).advanceChar c := by
  unfold advanceChar
  by_cases hc : c = '\n'
  · -- the next line is not the first, so its columns stay
    have hline : l.line + 1 ≠ 1 := by omega
    simp only [hc, if_true, shift, hline, if_false, Location.mk.injEq, and_true]
    omega
  · by_cases hl : l.line = 1
    · simp only [hc, if_false, shift, hl, if_true, Location.mk.injEq, true_and, and_true]
      omega
    · simp only [hc, if_false, shift, hl, Location.mk.injEq, and_true]
      omega

/-- **Walking over a text commutes with the displacement.** -/
theorem shift_advance : ∀ (t : Text) {l : Location}, 0 < l.line → base.shift (l.advance t) = (base.shift l).advance t
  | [], _, _ => rfl
  | c :: t, _, h => by
    rw [advance_cons, advance_cons, shift_advance t (advanceChar_line_pos c h), shift_advanceChar c h]

theorem shift_start (name : String) (p : Text) :
    ((start name).advance p).shift (start name) = (start name).advance p := by
  have hline : 0 < ((start name).advance p).line := advance_line_pos p Nat.one_pos
  have hcolumn : 0 < ((start name).advance p).column := advance_column_pos p Nat.one_pos
  have hsource : ((start name).advance p).source = name := advance_source p _
  generalize (start name).advance p = base at hline hcolumn hsource ⊢
  obtain ⟨offset, line, column, source⟩ := base
  simp only [shift, start, Location.mk.injEq, if_true] at hline hcolumn hsource ⊢
  refine ⟨by omega, by omega, by omega, hsource.symm⟩

end Location

/-! ## What holds a location -/

def Token.shift (base : Location) (tok : Token) : Token := { tok with loc := base.shift tok.loc }

def OpenBracket.shift (base : Location) (o : OpenBracket) : OpenBracket := { o with loc := base.shift o.loc }

def Brackets.shift (base : Location) (b : Brackets) : Brackets := ⟨b.opened.map (OpenBracket.shift base)⟩

def Frame.shift (base : Location) (f : Frame) : Frame := { f with openedAt := base.shift f.openedAt }

def Cause.shift (base : Location) : Cause → Cause
  | .wrongCloser o c loc => .wrongCloser o c (base.shift loc)
  | cause => cause

def ScanError.shift (base : Location) (e : ScanError) : ScanError := ⟨e.cause.shift base, base.shift e.loc⟩

def Answer.shift (base : Location) : Answer → Answer
  | .ok tok => .ok (tok.map (Token.shift base))
  | .error e => .error (e.shift base)

@[simp] theorem Cause.shift_kind (base : Location) (cause : Cause) : (cause.shift base).kind = cause.kind := by
  cases cause <;> rfl

theorem Brackets.shift_innermost? (base : Location) (b : Brackets) :
    (b.shift base).innermost? = b.innermost?.map (OpenBracket.shift base) := by
  unfold innermost? shift
  rw [List.head?_map]

/-- A displaced record passes a bracket as the record itself does. -/
theorem Brackets.shift_pass (base : Location) (b : Brackets) (c : Char) (loc : Location) :
    (b.shift base).pass c (base.shift loc) = match b.pass c loc with
      | .ok (ends, b) => .ok (ends, b.shift base)
      | .error e => .error (e.shift base) := by
  have hdepth : (b.shift base).depth = b.depth := List.length_map _
  unfold pass
  rw [hdepth]
  by_cases ho : isOpener c = true
  · simp only [ho, if_true]
    rfl
  · by_cases hc : isCloser c = true
    · by_cases hend : c = '\x7d' ∧ b.depth = 0
      · simp only [ho, hc, if_pos hend, Bool.not_true, Bool.false_eq_true, if_false]
      · simp only [ho, hc, hend, Bool.not_true, Bool.false_eq_true, if_false]
        obtain ⟨_ | ⟨o, os⟩⟩ := b
        · rfl
        · by_cases hfit : closerFor? o.bracket = some c
          · simp [close, shift, OpenBracket.shift, hfit]
          · simp [close, shift, OpenBracket.shift, hfit, ScanError.shift, Cause.shift]
    · simp [ho, hc]

namespace Scanner

variable {t : Table} {p : Policy} {base : Location} {k k' k₁ : Scanner} {tok : Token}

/-- `k'` goes on behind `base` as `k` does from the beginning: the places, the states above the bottom and the open
brackets are the same but displaced.  Where the bottom state was entered makes no difference. -/
structure Behind (base : Location) (k k' : Scanner) : Prop where
  rest : k'.rest = k.rest
  loc : k'.loc = base.shift k.loc
  line : 0 < k.loc.line
  states : k'.stack.frames.map (·.state) = k.stack.frames.map (·.state)
  entered : k'.stack.frames.dropLast = k.stack.frames.dropLast.map (Frame.shift base)
  records : k'.records = k.records.map (Brackets.shift base)

/-- Two outcomes go the same way. -/
inductive OutcomeBehind (base : Location) : Outcome → Outcome → Prop
  | token {k k' : Scanner} (tok : Token) (h : k.Behind base k') :
      OutcomeBehind base (.token tok k) (.token (tok.shift base) k')
  | finish {k k' : Scanner} (h : k.Behind base k') : OutcomeBehind base (.finish k) (.finish k')
  | fail {k k' : Scanner} (e : ScanError) (h : k.Behind base k') :
      OutcomeBehind base (.fail e k) (.fail (e.shift base) k')

namespace Behind

theorem top (h : k.Behind base k') : k'.stack.top.state = k.stack.top.state := (List.cons.inj h.states).1

theorem depth (h : k.Behind base k') : k'.stack.depth = k.stack.depth := by
  have hlen := congrArg List.length h.states
  simp only [List.length_map, StateStack.frames, List.length_cons, Nat.add_right_cancel_iff] at hlen
  exact hlen

/-- Above the bottom the innermost frame is displaced as a whole. -/
theorem topFrame (h : k.Behind base k') (hd : 0 < k.stack.depth) : k'.stack.top = k.stack.top.shift base := by
  have hd' : 0 < k'.stack.depth := by rw [h.depth]; exact hd
  have hne : k.stack.below ≠ [] := List.ne_nil_of_length_pos hd
  have hne' : k'.stack.below ≠ [] := List.ne_nil_of_length_pos hd'
  have hentered := h.entered
  rw [StateStack.frames, StateStack.frames, List.dropLast_cons_of_ne_nil hne, List.dropLast_cons_of_ne_nil hne',
    List.map_cons] at hentered
  exact (List.cons.inj hentered).1

theorem enter (h : k.Behind base k') (q : State) (loc : Location) :
    (k.enter q loc).Behind base (k'.enter q (base.shift loc)) := by
  refine ⟨h.rest, h.loc, h.line, ?_, ?_, ?_⟩
  · exact congrArg (q :: ·) h.states
  · have hframes (j : Scanner) (l : Location) : (j.enter q l).stack.frames.dropLast = ⟨q, l⟩ :: j.stack.frames.dropLast :=
      rfl
    rw [hframes, hframes, h.entered, List.map_cons]
    rfl
  · unfold Scanner.enter
    cases hq : q.balanced with
    | true => simp only [if_true, h.records, List.map_cons]; rfl
    | false => exact h.records

theorem leave {q : State} (h : k.Behind base k') (hl : k.leave = .ok (q, k₁)) :
    ∃ k₁', k'.leave = .ok (q, k₁') ∧ k₁.Behind base k₁' := by
  obtain ⟨j, hj, rfl⟩ := leave_eq_ok.1 hl
  obtain ⟨rfl, hframes⟩ := StateStack.frames_of_pop? hj
  have hd : 0 < k.stack.depth := by
    rw [Nat.pos_iff_ne_zero, ne_eq, ← StateStack.pop?_eq_none_iff, hj]
    exact Option.some_ne_none _
  cases hj' : k'.stack.pop? with
  | none =>
    rw [StateStack.pop?_eq_none_iff, h.depth] at hj'
    omega
  | some r =>
    obtain ⟨q', j'⟩ := r
    obtain ⟨rfl, hframes'⟩ := StateStack.frames_of_pop? hj'
    refine ⟨_, leave_eq_ok.2 ⟨j', hj'.trans (by rw [h.top]), rfl⟩, h.rest, h.loc, h.line, ?_, ?_, ?_⟩
    · have hstates := h.states
      rw [hframes, hframes', List.map_cons, List.map_cons] at hstates
      exact (List.cons.inj hstates).2
    · have hentered := h.entered
      have hne (i : StateStack) : i.frames ≠ [] := List.cons_ne_nil _ _
      rw [hframes, hframes', List.dropLast_cons_of_ne_nil (hne j), List.dropLast_cons_of_ne_nil (hne j'),
        List.map_cons] at hentered
      exact (List.cons.inj hentered).2
    · simp only [h.records]
      split
      · exact List.map_tail.symm
      · rfl

theorem leave_error {e : ScanError} (h : k.Behind base k') (hl : k.leave = .error e) :
    k'.leave = .error (e.shift base) := by
  obtain ⟨hd, rfl⟩ := leave_eq_error.1 hl
  refine leave_eq_error.2 ⟨h.depth.trans hd, ?_⟩
  rw [h.top, h.loc]
  rfl

theorem balance (h : k.Behind base k') (kind : Kind) (lexeme : Text) :
    k'.balance kind lexeme = match k.balance kind lexeme with
      | .ok (ends, records) => .ok (ends, records.map (Brackets.shift base))
      | .error e => .error (e.shift base) := by
  by_cases hb : kind = .punctuator ∧ (∃ c, lexeme = [c]) ∧ k.stack.top.state.balanced = true ∧ k.records ≠ []
  · obtain ⟨rfl, ⟨c, rfl⟩, hq, hne⟩ := hb
    obtain ⟨b, bs, hr⟩ := List.exists_cons_of_ne_nil hne
    have hr' : k'.records = b.shift base :: bs.map (Brackets.shift base) := by rw [h.records, hr, List.map_cons]
    have hq' : k'.stack.top.state.balanced = true := by rw [h.top]; exact hq
    rw [balance_eq_pass hq hr, balance_eq_pass hq' hr', h.loc, Brackets.shift_pass]
    cases b.pass c k.loc <;> rfl
  · have hb' : ¬(kind = .punctuator ∧ (∃ c, lexeme = [c]) ∧ k'.stack.top.state.balanced = true ∧ k'.records ≠ []) := by
      rw [h.top, h.records, ne_eq, List.map_eq_nil_iff]
      exact hb
    rw [balance_of_other hb, balance_of_other hb', h.records]

theorem unterminated (h : k.Behind base k') (hd : 0 < k.stack.depth) :
    k'.unterminated = k.unterminated.shift base := by
  have hhead : k'.records.head?.bind Brackets.innermost? =
      (k.records.head?.bind Brackets.innermost?).map (OpenBracket.shift base) := by
    rw [h.records]
    cases k.records with
    | nil => rfl
    | cons b bs => exact Brackets.shift_innermost? base b
  unfold Scanner.unterminated
  simp only [h.topFrame hd, hhead]
  cases hq : k.stack.top.state.balanced with
  | false => simp [Frame.shift, hq, ScanError.shift, Cause.shift]
  | true =>
    cases k.records.head?.bind Brackets.innermost? <;>
      simp [Frame.shift, hq, ScanError.shift, Cause.shift, OpenBracket.shift]

theorem skipChars (h : k.Behind base k') (n : Nat) : (k.skipChars n).Behind base (k'.skipChars n) := by
  refine ⟨?_, ?_, Location.advance_line_pos _ h.line, h.states, h.entered, h.records⟩
  · exact congrArg (·.drop n) h.rest
  · show k'.loc.advance (k'.rest.take n) = base.shift (k.loc.advance (k.rest.take n))
    rw [h.rest, h.loc, Location.shift_advance _ h.line]

theorem transit (h : k.Behind base k') (r : Transition) (tok : Token) :
    OutcomeBehind base (k.transit r tok) (k'.transit r (tok.shift base)) := by
  cases r with
  | stay => exact .token tok h
  | push q => exact .token tok (h.enter q tok.loc)
  | pop =>
    unfold Scanner.transit
    cases hl : k.leave with
    | ok r =>
      obtain ⟨k₁', hl', h₁⟩ := h.leave hl
      simp only [hl']
      exact .token tok h₁
    | error e =>
      simp only [h.leave_error hl]
      exact .fail e h

/-- **A match is taken alike**, whatever it does to the stack. -/
theorem take (h : k.Behind base k') (m : Match) : OutcomeBehind base (k.take t m) (k'.take t m) := by
  have hlexeme : k'.lexeme m = k.lexeme m := congrArg (·.take m.length) h.rest
  have hkind : k'.kindOf t m = k.kindOf t m := congrArg (t.classify m.rule) hlexeme
  have htoken (ends : Bool) : k'.token t m ends = (k.token t m ends).shift base := by
    simp only [Scanner.token, Token.shift, hlexeme, hkind, h.loc, h.top]
  unfold Scanner.take
  rw [hlexeme, hkind, h.balance]
  cases hu : m.rule.unterminated with
  | true =>
    simp only [if_true, h.loc]
    exact .fail _ h
  | false =>
    simp only [Bool.false_eq_true, if_false]
    cases hb : k.balance (k.kindOf t m) (k.lexeme m) with
    | error e => exact .fail e h
    | ok r =>
      obtain ⟨ends, records⟩ := r
      simp only [htoken]
      have hrecords : Behind base { k with records } { k' with records := records.map (Brackets.shift base) } :=
        ⟨h.rest, h.loc, h.line, h.states, h.entered, rfl⟩
      exact (hrecords.skipChars m.length).transit _ _

/-- **A step goes the same way** behind a text as at the beginning. -/
theorem step (h : k.Behind base k') : OutcomeBehind base (k.step t p) (k'.step t p) := by
  cases hm : t.choose? p k.stack.top.state k.rest with
  | some m =>
    have hm' : t.choose? p k'.stack.top.state k'.rest = some m := by rw [h.top, h.rest]; exact hm
    rw [step_of_match hm, step_of_match hm']
    exact h.take m
  | none =>
    have hm' : t.choose? p k'.stack.top.state k'.rest = none := by rw [h.top, h.rest]; exact hm
    cases hr : k.rest with
    | nil =>
      rw [step_of_end hr, step_of_end (h.rest.trans hr), h.depth]
      by_cases hd : 0 < k.stack.depth
      · rw [if_pos hd, if_pos hd, h.unterminated hd]
        exact .fail _ h
      · rw [if_neg hd, if_neg hd]
        exact .finish ⟨h.rest, h.loc, h.line, h.states, h.entered, h.records⟩
    | cons c cs =>
      rw [step_of_no_match hr hm, step_of_no_match (h.rest.trans hr) hm', h.top, h.loc]
      exact .fail ⟨.unexpected c k.stack.top.state.name, k.loc⟩ h

end Behind

/-! ## Where the one begins in the other -/

/-- **The bottom state is never left.** -/
theorem History.bottom {source : Text} {name : String} {es : List Event} (h : History t (.start t source name) es k) :
    (k.stack.frames.map (·.state)).getLast? = some t.initial := by
  have moves {loc : Location} {r : Transition} {j j' : Scanner} (hm : Moves loc r j j')
      (hj : (j.stack.frames.map (·.state)).getLast? = some t.initial) :
      (j'.stack.frames.map (·.state)).getLast? = some t.initial := by
    cases hm with
    | stay => exact hj
    | push q => exact (List.getLast?_cons_cons).trans hj
    | pop hl =>
      obtain ⟨i, hi, rfl⟩ := leave_eq_ok.1 hl
      rw [(StateStack.frames_of_pop? hi).2] at hj
      exact hj
  induction h with
  | start => rfl
  | snoc _ hc ih =>
    cases hc with
    | take _ _ _ hmv => exact moves hmv ih
    | drive hmv => exact moves hmv ih
    | finish hs =>
      obtain ⟨-, -, rfl⟩ := step_finish_iff.1 hs
      exact ih
    | fail hs =>
      rcases step_fail hs with ⟨rfl, -⟩ | ⟨m, ends, records, -, -, -, -, -, rfl, -⟩
      · exact ih
      · exact ih

end Scanner

/-- The bytes of a prefix tell it from the other prefixes of a text. -/
theorem Text.append_inj_bytes {s t u v : Text} (h : s ++ t = u ++ v) (hb : bytes s = bytes u) : s = u ∧ t = v := by
  have nil_of {w s' : Text} (hw : bytes (s' ++ w) = bytes s') : w = [] := by
    rw [bytes_append] at hw
    by_cases hne : w = []
    · exact hne
    · have hpos := bytes_pos hne
      omega
  rcases List.append_eq_append_iff.1 h with ⟨w, rfl, rfl⟩ | ⟨w, rfl, rfl⟩
  · rw [nil_of hb.symm]
    simp
  · rw [nil_of hb]
    simp

namespace Scanner

variable {t : Table} {k : Scanner}

/-- **Where no state is entered, a scanner is at a beginning**: nothing of the text before it is left. -/
theorem History.behind {before rest : Text} {name : String} {es : List Event}
    (h : History t (.start t (before ++ rest) name) es k) (hoff : k.loc.offset = before.bytes) (hd : k.stack.depth = 0) :
    (Scanner.start t rest name).Behind ((Location.start name).advance before) k := by
  obtain ⟨⟨u, hu, hloc⟩, -⟩ := h.laid
  have hbytes : before.bytes = u.bytes := by rw [← hoff, hloc, Location.start_advance_offset]
  obtain ⟨rfl, rfl⟩ := Text.append_inj_bytes hu hbytes
  have hbelow : k.stack.below = [] := List.length_eq_zero_iff.1 hd
  have hframes : k.stack.frames = [k.stack.top] := by rw [StateStack.frames, hbelow]
  have hbottom := h.bottom
  rw [hframes] at hbottom
  refine ⟨rfl, ?_, Nat.one_pos, ?_, ?_, ?_⟩
  · exact hloc.trans (Location.shift_start name before).symm
  · rw [hframes]
    exact congrArg (fun q => [q]) (Option.some.inj hbottom)
  · rw [hframes]
    rfl
  · exact h.kept.records_of_bottom (congrArg List.length hframes)

end Scanner

namespace Session

variable {σ : Type} {base : Location} {s s' : Session σ}

open Scanner (Event History OutcomeBehind)

/-- Two sessions with the same table and options, none of which has failed, of which one goes on behind `base` as the
other does from the beginning. -/
structure Behind (base : Location) (s s' : Session σ) : Prop where
  table : s'.table = s.table
  options : s'.options = s.options
  sound : s.failure = none
  sound' : s'.failure = none
  scanner : s.scanner.Behind base s'.scanner

namespace Behind

theorem step (h : s.Behind base s') :
    s'.step.1 = s.step.1.shift base ∧ s.step.2.Behind base s'.step.2 := by
  have hstep : OutcomeBehind base (s.scanner.step s.table s.options.policy)
      (s'.scanner.step s'.table s'.options.policy) := by
    rw [h.table, h.options]
    exact h.scanner.step
  unfold Session.step
  generalize s.scanner.step s.table s.options.policy = o, s'.scanner.step s'.table s'.options.policy = o' at hstep ⊢
  cases hstep with
  | token tok hk => exact ⟨rfl, h.table, h.options, h.sound, h.sound', hk⟩
  | finish hk => exact ⟨rfl, h.table, h.options, h.sound, h.sound', hk⟩
  | fail e hk => exact ⟨rfl, h.table, h.options, h.sound, h.sound', hk⟩

/-- **The loop over hidden kinds goes the same way.** -/
theorem seek {s s' : Session σ} (h : s.Behind base s') :
    s'.seek.1 = s.seek.1.shift base ∧ s.seek.2.Behind base s'.seek.2 := by
  obtain ⟨hanswer, hafter⟩ := h.step
  rw [seek_eq s, seek_eq s']
  rcases hs : s.step with ⟨e | _ | tok, s₁⟩ <;> rcases hs' : s'.step with ⟨a', s₁'⟩ <;>
    simp only [hs, hs', Answer.shift, Option.map_none, Option.map_some] at hanswer hafter <;> subst hanswer
  · exact ⟨rfl, hafter⟩
  · exact ⟨rfl, hafter⟩
  · have hshort := step_shorter hs
    have hkind : (tok.shift base).kind = tok.kind := rfl
    simp only [hkind, hafter.options]
    split
    · exact seek hafter
    · exact ⟨rfl, hafter⟩
termination_by s.scanner.rest.length

/-- **A call for a token goes the same way**, and so does the next unless this one fails. -/
theorem next (h : s.Behind base s') :
    s'.next.1 = s.next.1.shift base ∧ s.next.2.scanner.Behind base s'.next.2.scanner ∧
      ((∀ e, s.next.1 ≠ .error e) → s.next.2.Behind base s'.next.2) := by
  obtain ⟨hanswer, hafter⟩ := h.seek
  obtain ⟨h1, h2, -⟩ := next_of_seek h.sound
  obtain ⟨h1', h2', -⟩ := next_of_seek h.sound'
  have hnext : s'.next.1 = s.next.1.shift base := by rw [h1, h1', hanswer]
  have hscanner : s.next.2.scanner.Behind base s'.next.2.scanner := by
    rw [h2, h2']
    exact hafter.scanner
  refine ⟨hnext, hscanner, fun hok => ?_⟩
  obtain ⟨ht, ho, -⟩ := next_keeps s
  obtain ⟨ht', ho', -⟩ := next_keeps s'
  refine ⟨by rw [ht, ht', h.table], by rw [ho, ho', h.options], ?_, ?_, hscanner⟩
  · refine next_failure_none h.sound ?_
    rcases hn : s.next.1 with e | tok
    · exact absurd hn (hok e)
    · rfl
  · refine next_failure_none h.sound' ?_
    rw [hnext]
    rcases hn : s.next.1 with e | tok
    · exact absurd hn (hok e)
    · rfl

/-- **A run goes the same way** to its end. -/
theorem run {s s' : Session σ} (h : s.Behind base s') :
    s'.run.1 = s.run.1.map (Token.shift base) ∧ s'.run.2.1 = s.run.2.1.map (ScanError.shift base) ∧
      s.run.2.2.scanner.Behind base s'.run.2.2.scanner := by
  obtain ⟨hanswer, hscanner, hafter⟩ := h.next
  rw [run_eq s, run_eq s']
  rcases hn : s.next with ⟨e | _ | tok, s₁⟩ <;> rcases hn' : s'.next with ⟨a', s₁'⟩ <;>
    simp only [hn, hn', Answer.shift, Option.map_none, Option.map_some] at hanswer hscanner hafter <;> subst hanswer
  · exact ⟨rfl, rfl, hscanner⟩
  · exact ⟨rfl, rfl, hscanner⟩
  · have hshort := next_shorter hn
    obtain ⟨htokens, hending, hplace⟩ := run (hafter fun e he => by cases he)
    exact ⟨congrArg (tok.shift base :: ·) htokens, hending, hplace⟩
termination_by s.scanner.rest.length

end Behind

/-- **The rest of the text decides the rest of the scan.**  Whatever has been asked of a session, its scanner has a
history.  Where a history leads to the place behind a first part of the text with no state entered, a session that goes
on from there makes the same of the rest as a new session over the rest alone with the same options: the same visible
tokens, the same end or error, and the same states at last, with every location displaced by the first part. -/
theorem rest_decides (t : Table) (before rest : Text) (name : String) (o : Options) (memory : σ)
    (cs : List (Call σ)) :
    (∃ es, History t (.start t (before ++ rest) name) es
      ((Session.new t (before ++ rest) name o memory).calls cs).2.scanner) ∧
    ∀ (es : List Event) (k : Scanner), History t (.start t (before ++ rest) name) es k →
      k.loc.offset = before.bytes → k.stack.depth = 0 →
      ∀ later : Session σ, later.table = t → later.scanner = k → later.failure = none →
        let fresh := Session.new t rest name later.options memory
        let base := (Location.start name).advance before
        later.run.1 = fresh.run.1.map (Token.shift base) ∧
        later.run.2.1 = fresh.run.2.1.map (ScanError.shift base) ∧
        later.run.2.1.map (·.cause.kind) = fresh.run.2.1.map (·.cause.kind) ∧
        later.run.2.2.scanner.loc = base.shift fresh.run.2.2.scanner.loc ∧
        later.run.2.2.scanner.stack.states = fresh.run.2.2.scanner.stack.states := by
  refine ⟨?_, ?_⟩
  · obtain ⟨es, hes, -, -⟩ := calls_history cs (Session.new t (before ++ rest) name o memory)
    exact ⟨es, hes⟩
  · rintro es k hes hoff hd later ht rfl hf fresh base
    have hbehind : fresh.Behind base later := ⟨ht, rfl, rfl, hf, hes.behind hoff hd⟩
    obtain ⟨htokens, herror, hplace⟩ := hbehind.run
    refine ⟨htokens, herror, ?_, hplace.loc, congrArg List.reverse hplace.states⟩
    rw [herror, Option.map_map]
    congr 1
    funext e
    exact Cause.shift_kind base e.cause

/-- A brace that does not fit, behind a template that has come to its end: the run from there is the run over the rest,
one line further down and a column to the right of its beginning. -/
theorem mismatch_behind_template :
    let before := "`é\n`".toList
    let rest := "x`$\x7b(\x7d".toList
    let later := ((Session.new Sample.table (before ++ rest) "t" {} ()).calls [.next, .next, .next]).2
    later.scanner.loc = ⟨5, 2, 2, "t"⟩ ∧ later.scanner.stack.depth = 0 ∧ later.failure = none ∧
      later.run.1.map (·.loc) = [⟨5, 2, 2, "t"⟩, ⟨6, 2, 3, "t"⟩, ⟨7, 2, 4, "t"⟩, ⟨9, 2, 6, "t"⟩] ∧
      later.run.2.1 = some ⟨.wrongCloser '(' '\x7d' ⟨10, 2, 7, "t"⟩, ⟨9, 2, 6, "t"⟩⟩ ∧
      (Session.new Sample.table rest "t" {} ()).run.2.1 =
        some ⟨.wrongCloser '(' '\x7d' ⟨5, 1, 6, "t"⟩, ⟨4, 1, 5, "t"⟩⟩ := by
  intro before rest later
  obtain ⟨⟨es, hes⟩, h⟩ := rest_decides Sample.table before rest "t" {} () [.next, .next, .next]
  have ht : later.table = Sample.table := calls_table _ _
  obtain ⟨htokens, herror, -⟩ := h es _ hes (by decide) (by decide) later ht rfl (by decide)
  have hlocs : ((Session.new Sample.table rest "t" {} ()).run.1.map fun tok => tok.loc) =
      [⟨0, 1, 1, "t"⟩, ⟨1, 1, 2, "t"⟩, ⟨2, 1, 3, "t"⟩, ⟨4, 1, 5, "t"⟩] := by decide
  have hfresh : (Session.new Sample.table rest "t" {} ()).run.2.1 =
      some ⟨.wrongCloser '(' '\x7d' ⟨5, 1, 6, "t"⟩, ⟨4, 1, 5, "t"⟩⟩ := by decide
  have hoptions : later.options = {} := by decide
  rw [hoptions] at htokens herror
  refine ⟨by decide, by decide, by decide, ?_, ?_, hfresh⟩
  · rw [htokens, List.map_map]
    have hmoved := congrArg (List.map ((Location.start "t").advance before).shift) hlocs
    rw [List.map_map] at hmoved
    exact hmoved.trans (by decide)
  · rw [herror, hfresh]
    decide

end Session
end ModalLexer
