import ModalLexer.Proofs.Balancing
/-!
# Openings — what is open, in the order of the text

A text that ends too early is blamed on the innermost thing still open: an entered state, or a bracket in one that is
balanced.  `Scanner.openings` lists them, the outermost first: every entered state, followed by the brackets of its
record if it has one.  Whatever happens to a scanner, the list runs in the order of the text and not beyond the place of
the scanner, and every entry stands where it says (`History.laid`).  So the last entry, which is the one to blame
(`unterminated_loc`), is the one opened latest (`openings_follow_text`).
-/
namespace ModalLexer

/-- What may be open: an entered state, or a bracket in a balanced one. -/
inductive Opening
  | state (f : Frame)
  | bracket (o : OpenBracket)
  deriving DecidableEq, Repr

namespace Opening

def loc : Opening → Location
  | state f => f.openedAt
  | bracket o => o.loc

/-- Whether it belongs to a balanced state. -/
def ofBalanced : Opening → Bool
  | state f => f.state.balanced
  | bracket _ => true

/-- The opening stands in the text where it says, and a bracket is the character there. -/
def StandsIn (source : Text) (name : String) (o : Opening) : Prop :=
  ∃ u v, source = u ++ v ∧ o.loc = (Location.start name).advance u ∧ ∀ b, o = bracket b → v.head? = some b.bracket

end Opening

namespace Scanner

/-- What is open above the bottom frame, the innermost first. -/
def trail : List Frame → List Brackets → List Opening
  | f :: g :: fs, b :: bs =>
    if f.state.balanced then b.opened.map .bracket ++ .state f :: trail (g :: fs) bs
    else .state f :: trail (g :: fs) (b :: bs)
  | f :: g :: fs, [] => .state f :: trail (g :: fs) []
  | _, _ => []

/-- **What is open**, the outermost first: every state entered above the bottom, a balanced one followed by the open
brackets of its record. -/
def openings (s : Scanner) : List Opening := (trail s.stack.frames s.records).reverse

/-- Openings, the innermost first, in the order of the text and not beyond `loc`. -/
structure Laid (source : Text) (name : String) (loc : Location) (os : List Opening) : Prop where
  ordered : os.Pairwise fun o p => p.loc.offset ≤ o.loc.offset
  before : ∀ o ∈ os, o.loc.offset ≤ loc.offset
  stands : ∀ o ∈ os, o.StandsIn source name

/-- The scanner stands in the text where it says. -/
def Placed (source : Text) (name : String) (s : Scanner) : Prop :=
  ∃ u, source = u ++ s.rest ∧ s.loc = (Location.start name).advance u

variable {source : Text} {name : String} {loc : Location} {os : List Opening} {t : Table} {p : Policy} {s s' : Scanner}

namespace Laid

theorem nil : Laid source name loc [] := ⟨.nil, by simp, by simp⟩

theorem sublist {os' : List Opening} (h : Laid source name loc os) (hs : os'.Sublist os) : Laid source name loc os' :=
  ⟨h.ordered.sublist hs, fun o ho => h.before o (hs.subset ho), fun o ho => h.stands o (hs.subset ho)⟩

theorem mono {loc' : Location} (h : Laid source name loc os) (hl : loc.offset ≤ loc'.offset) :
    Laid source name loc' os :=
  ⟨h.ordered, fun o ho => Nat.le_trans (h.before o ho) hl, h.stands⟩

/-- What opens at the place itself is the innermost. -/
theorem cons {o : Opening} (h : Laid source name loc os) (hl : o.loc = loc) (ho : o.StandsIn source name) :
    Laid source name loc (o :: os) := by
  refine ⟨List.pairwise_cons.2 ⟨?_, h.ordered⟩, ?_, ?_⟩
  · intro q hq
    rw [hl]
    exact h.before q hq
  · intro q hq
    rcases List.mem_cons.1 hq with rfl | hq
    · exact Nat.le_of_eq (congrArg (·.offset) hl)
    · exact h.before q hq
  · intro q hq
    rcases List.mem_cons.1 hq with rfl | hq
    · exact ho
    · exact h.stands q hq

end Laid

/-! ## The trail -/

theorem trail_bottom (f : Frame) (bs : List Brackets) : trail [f] bs = [] := by cases bs <;> rfl

theorem trail_balanced {f : Frame} (hf : f.state.balanced = true) (g : Frame) (fs : List Frame) (b : Brackets)
    (bs : List Brackets) :
    trail (f :: g :: fs) (b :: bs) = b.opened.map .bracket ++ .state f :: trail (g :: fs) bs := by
  simp [trail, hf]

theorem trail_plain {f : Frame} (hf : f.state.balanced = false) (g : Frame) (fs : List Frame) (bs : List Brackets) :
    trail (f :: g :: fs) bs = .state f :: trail (g :: fs) bs := by
  cases bs <;> simp [trail, hf]

theorem trail_enter (s : Scanner) (q : State) (loc : Location) :
    trail (s.enter q loc).stack.frames (s.enter q loc).records =
      .state ⟨q, loc⟩ :: trail s.stack.frames s.records := by
  have hfs : (s.enter q loc).stack.frames = ⟨q, loc⟩ :: s.stack.top :: s.stack.below := rfl
  rw [hfs, enter]
  cases hq : q.balanced with
  | true => exact trail_balanced hq _ _ _ _
  | false => exact trail_plain hq _ _ _

/-- **Leaving a state** closes it and what is open in it. -/
theorem trail_leave {q : State} (h : s.leave = .ok (q, s')) :
    (trail s'.stack.frames s'.records).Sublist (trail s.stack.frames s.records) := by
  obtain ⟨k, hk, rfl⟩ := leave_eq_ok.1 h
  obtain ⟨rfl, hfs⟩ := StateStack.frames_of_pop? hk
  rw [hfs]
  have hk' : k.frames = k.top :: k.below := rfl
  cases hb : s.stack.top.state.balanced with
  | false =>
    rw [hk', trail_plain hb]
    exact List.sublist_cons_self _ _
  | true =>
    cases hr : s.records with
    | nil =>
      rw [hk', trail]
      exact List.sublist_cons_self _ _
    | cons b bs =>
      rw [hk', trail_balanced hb]
      exact (List.sublist_cons_self _ _).trans (List.sublist_append_right _ _)

/-- A bracket that passes is recorded, or some record of an opener goes, or nothing changes. -/
theorem pass_opened {b b' : Brackets} {c : Char} {ends : Bool} (h : b.pass c loc = .ok (ends, b')) :
    b'.opened = ⟨c, loc⟩ :: b.opened ∨ b'.opened.Sublist b.opened := by
  unfold Brackets.pass at h
  split at h
  · cases h
    exact .inl rfl
  · split at h
    · cases h
      exact .inr (List.Sublist.refl _)
    · split at h
      · cases h
        exact .inr (List.Sublist.refl _)
      · unfold Brackets.close at h
        cases hb : b.opened with
        | nil => simp [hb] at h
        | cons o os =>
          by_cases ho : Brackets.closerFor? o.bracket = some c
          · simp only [hb, if_pos ho, Except.ok.injEq, Prod.mk.injEq] at h
            obtain ⟨-, rfl⟩ := h
            exact .inr (List.sublist_cons_self _ _)
          · simp [hb, if_neg ho] at h

/-- **Balancing a lexeme** opens a bracket at the place of the scanner, or opens nothing. -/
theorem trail_balance {kind : Kind} {lexeme : Text} {ends : Bool} {records : List Brackets}
    (h : s.balance kind lexeme = .ok (ends, records)) :
    (∃ c, lexeme = [c] ∧
      trail s.stack.frames records = .bracket ⟨c, s.loc⟩ :: trail s.stack.frames s.records) ∨
    (trail s.stack.frames records).Sublist (trail s.stack.frames s.records) := by
  unfold balance at h
  split at h
  · rename_i c b bs hb hr
    cases hp : b.pass c s.loc with
    | error e => rw [hp] at h; cases h
    | ok r =>
      rw [hp] at h
      cases h
      have hfs : s.stack.frames = s.stack.top :: s.stack.below := rfl
      rw [hfs, hr]
      cases s.stack.below with
      | nil =>
        right
        rw [trail_bottom]
        exact List.nil_sublist _
      | cons g fs =>
        rw [trail_balanced hb, trail_balanced hb]
        rcases pass_opened hp with ho | ho
        · left
          refine ⟨c, rfl, ?_⟩
          rw [ho, List.map_cons, List.cons_append]
        · right
          exact (ho.map _).append_right _
  · cases h
    exact .inr (List.Sublist.refl _)

/-! ## Along a history -/

theorem Placed.stands (h : Placed source name s) : ∀ f : Frame, f.openedAt = s.loc →
    (Opening.state f).StandsIn source name := by
  intro f hf
  obtain ⟨u, hu, hl⟩ := h
  exact ⟨u, s.rest, hu, hf.trans hl, fun b hb => by cases hb⟩

theorem Placed.skipChars (h : Placed source name s) (n : Nat) : Placed source name (s.skipChars n) := by
  obtain ⟨u, hu, hl⟩ := h
  refine ⟨u ++ s.rest.take n, ?_, ?_⟩
  · rw [hu, List.append_assoc]
    exact congrArg (u ++ ·) (List.take_append_drop n s.rest).symm
  · rw [Location.advance_append, ← hl]
    rfl

theorem Placed.of_place (h : Placed source name s) (hr : s'.rest = s.rest) (hl : s'.loc = s.loc) :
    Placed source name s' := by
  unfold Placed
  rw [hr, hl]
  exact h

theorem skipChars_offset (s : Scanner) (n : Nat) : s.loc.offset ≤ (s.skipChars n).loc.offset := by
  have : (s.skipChars n).loc = s.loc.advance (s.rest.take n) := rfl
  rw [this, Location.advance_offset]
  exact Nat.le_add_right _ _

/-- **A change of the stack** at the place of a scanner keeps the order. -/
theorem Moves.laid {r : Transition} (h : Moves loc r s s') (hl : Laid source name loc (trail s.stack.frames s.records))
    (hs : ∀ f : Frame, f.openedAt = loc → (Opening.state f).StandsIn source name) :
    Laid source name loc (trail s'.stack.frames s'.records) := by
  cases h with
  | stay => exact hl
  | push q =>
    rw [trail_enter]
    exact hl.cons rfl (hs _ rfl)
  | pop hq => exact hl.sublist (trail_leave hq)

/-- **A match taken keeps the order** before the stack changes: a bracket it opens is the character at the place. -/
theorem balance_laid {m : Match} {ends : Bool} {records : List Brackets} (hp : Placed source name s)
    (hl : Laid source name s.loc (trail s.stack.frames s.records))
    (hb : s.balance (s.kindOf t m) (s.lexeme m) = .ok (ends, records)) :
    Laid source name s.loc (trail s.stack.frames records) := by
  rcases trail_balance hb with ⟨c, hc, htrail⟩ | hsub
  · rw [htrail]
    refine hl.cons rfl ?_
    obtain ⟨u, hu, hloc⟩ := hp
    refine ⟨u, s.rest, hu, hloc, ?_⟩
    intro b hb
    cases hb
    have htake : s.rest.take m.length = [c] := hc
    cases hr : s.rest with
    | nil => rw [hr] at htake; simp at htake
    | cons d ds =>
      rw [hr] at htake
      cases hm : m.length with
      | zero => rw [hm] at htake; cases htake
      | succ n =>
        rw [hm, List.take_succ_cons] at htake
        obtain ⟨rfl, -⟩ := List.cons.inj htake
        rfl
  · exact hl.sublist hsub

/-- **Whatever happens to a scanner keeps the order.** -/
theorem Change.laid {e : Event} (h : Change t s e s') (hp : Placed source name s)
    (hl : Laid source name s.loc (trail s.stack.frames s.records)) :
    Placed source name s' ∧ Laid source name s'.loc (trail s'.stack.frames s'.records) := by
  cases h with
  | @take p m ends records _ hm hu hb hmv =>
    obtain ⟨hr, hloc, -⟩ := hmv.place
    have hrec : Laid source name s.loc (trail s.stack.frames records) := balance_laid hp hl hb
    refine ⟨(hp.skipChars m.length).of_place hr hloc, ?_⟩
    rw [hloc]
    exact (hmv.laid hrec hp.stands).mono (skipChars_offset s m.length)
  | drive hmv =>
    obtain ⟨hr, hloc, -⟩ := hmv.place
    refine ⟨hp.of_place hr hloc, ?_⟩
    rw [hloc]
    exact hmv.laid hl hp.stands
  | finish hs =>
    obtain ⟨-, -, rfl⟩ := step_finish_iff.1 hs
    exact ⟨hp, hl⟩
  | fail hs =>
    rcases step_fail hs with ⟨rfl, -⟩ | ⟨m, ends, records, -, -, hb, -, -, rfl, -⟩
    · exact ⟨hp, hl⟩
    · -- refused at the bottom, the match has been taken all the same
      exact ⟨hp.skipChars m.length, (balance_laid hp hl hb).mono (skipChars_offset s m.length)⟩

theorem History.laid {es : List Event} (h : History t (.start t source name) es s) :
    Placed source name s ∧ Laid source name s.loc (trail s.stack.frames s.records) := by
  induction h with
  | start => exact ⟨⟨[], rfl, rfl⟩, .nil⟩
  | snoc _ hc ih => exact hc.laid ih.1 ih.2

theorem Kept.length_eq {ws : List BracketWord} {fs : List Frame} {bs : List Brackets} (h : Kept fs ws bs) :
    bs.length = fs.dropLast.countP (·.state.balanced) := by
  have ne_nil {fs : List Frame} {ws : List BracketWord} {bs : List Brackets} (h : Kept fs ws bs) : fs ≠ [] := by
    cases h <;> simp
  induction h with
  | bottom => rfl
  | balanced hf _ h ih => simp [List.dropLast_cons_of_ne_nil (ne_nil h), hf, ih]
  | plain hf h ih => simp [List.dropLast_cons_of_ne_nil (ne_nil h), hf, ih]

/-! ## The end of the text -/

/-- **At the end the innermost opening is to blame.** -/
theorem unterminated_loc (hd : 0 < s.stack.depth) :
    (trail s.stack.frames s.records).head?.map (·.loc) = some s.unterminated.loc ∧
      s.unterminated.cause.kind = .unterminatedConstruct := by
  have hfs : s.stack.frames = s.stack.top :: s.stack.below := rfl
  unfold unterminated
  rw [hfs]
  cases hb : s.stack.below with
  | nil => rw [StateStack.depth, hb] at hd; cases hd
  | cons g fs =>
    cases hq : s.stack.top.state.balanced with
    | false => simp [trail_plain hq, Opening.loc, Cause.kind, hq]
    | true =>
      cases hr : s.records with
      | nil => simp [trail, Opening.loc, Cause.kind, hq]
      | cons b bs =>
        rw [trail_balanced hq]
        cases ho : b.opened <;> simp [Brackets.innermost?, ho, Opening.loc, Cause.kind, hq]

theorem fail_at_end {e : ScanError} (h : s.step t p = .fail e s') (hr : s'.rest = []) (hd : 0 < s'.stack.depth) :
    s' = s ∧ e = s.unterminated := by
  rcases step_fail h with ⟨rfl, ⟨-, -, rfl⟩ | ⟨c, hc, -⟩ | ⟨m, hm, -⟩⟩ | ⟨m, ends, records, -, -, -, -, h0, rfl, -⟩
  · exact ⟨rfl, rfl⟩
  · rw [hr] at hc
    cases hc
  · have hb := Table.choose?_bounds hm
    rw [hr, List.length_nil] at hb
    omega
  · have hd' : 0 < s.stack.depth := hd
    omega

theorem mem_openings {o : Opening} : o ∈ s.openings ↔ o ∈ trail s.stack.frames s.records := List.mem_reverse

theorem Laid.openings (h : Laid source name loc (trail s.stack.frames s.records)) :
    (s.openings.map (·.loc.offset)).Pairwise (· ≤ ·) := by
  rw [Scanner.openings, List.map_reverse, List.pairwise_reverse, List.pairwise_map]
  exact h.ordered

theorem Laid.last (h : Laid source name loc (trail s.stack.frames s.records)) (hd : 0 < s.stack.depth) :
    s.openings.getLast?.map (·.loc) = some s.unterminated.loc ∧
      ∀ o ∈ s.openings, o.loc.offset ≤ s.unterminated.loc.offset := by
  obtain ⟨hhead, -⟩ := unterminated_loc hd
  refine ⟨by rw [Scanner.openings, List.getLast?_reverse, hhead], ?_⟩
  intro o ho
  rw [mem_openings] at ho
  have hord := h.ordered
  cases htr : trail s.stack.frames s.records with
  | nil => rw [htr] at ho; cases ho
  | cons q qs =>
    rw [htr] at hhead ho hord
    have hq : q.loc = s.unterminated.loc := Option.some.inj hhead
    rcases List.mem_cons.1 ho with rfl | ho
    · exact Nat.le_of_eq (congrArg (·.offset) hq)
    · rw [← hq]
      exact List.rel_of_pairwise_cons hord ho

end Scanner

theorem Text.dropBytes?_append (s t : Text) : dropBytes? (bytes s) (s ++ t) = some t := by
  rw [dropBytes?, charsOfBytes?_append, Option.map_some, List.drop_left]

theorem Opening.StandsIn.found {source : Text} {name : String} {q : Opening} (h : q.StandsIn source name) :
    (∃ u, source.takeBytes? q.loc.offset = some u ∧ q.loc = (Location.start name).advance u) ∧
      ∀ b, q = .bracket b → ∃ v, source.dropBytes? b.loc.offset = some (b.bracket :: v) := by
  obtain ⟨u, v, hsource, hloc, hc⟩ := h
  have hoff : q.loc.offset = u.bytes := by rw [hloc, Location.start_advance_offset]
  refine ⟨⟨u, ?_, hloc⟩, ?_⟩
  · rw [hoff, hsource, Text.takeBytes?_append]
  · rintro b rfl
    obtain ⟨w, hw⟩ := List.head?_eq_some_iff.1 (hc b rfl)
    refine ⟨w, ?_⟩
    rw [show b.loc.offset = u.bytes from hoff, hsource, Text.dropBytes?_append, hw]

namespace Session

variable {σ : Type}

open Scanner (Event History taken)

/-- **The openings follow the text.**  Whatever is asked of a session, each balanced state above the bottom has a record
of its own and no other state has one; and what is open, from the bottom up every entered state and the brackets of its
record, runs in the order of the text and not beyond the place of the session, each entry at its true location and each
bracket the character there.  A call for a token that comes to the end of the text in an entered state fails, and
blames the last of the openings. -/
theorem openings_follow_text (t : Table) (source : Text) (name : String) (o : Options) (memory : σ)
    (cs : List (Call σ)) :
    let s := ((Session.new t source name o memory).calls cs).2
    (s.scanner.records.length = s.scanner.stack.frames.dropLast.countP (·.state.balanced) ∧
      ∀ (i : Nat) (f : Frame), i < s.scanner.stack.depth → s.scanner.stack.frames[i]? = some f →
        f.state.balanced = true → ∃ b, s.scanner.recordAt? i = some b) ∧
    (s.scanner.openings.map (·.loc.offset)).Pairwise (· ≤ ·) ∧
    (∀ q ∈ s.scanner.openings, q.loc.offset ≤ s.scanner.loc.offset ∧
      (∃ u, source.takeBytes? q.loc.offset = some u ∧ q.loc = (Location.start name).advance u) ∧
      ∀ b, q = .bracket b → ∃ v, source.dropBytes? b.loc.offset = some (b.bracket :: v)) ∧
    (s.failure = none → (∀ tok, s.next.1 ≠ .ok (some tok)) → s.next.2.scanner.rest = [] →
      0 < s.next.2.scanner.stack.depth →
      ∃ e, s.next.1 = .error e ∧ e.cause.kind = .unterminatedConstruct ∧
        s.next.2.scanner.openings.getLast?.map (·.loc) = some e.loc ∧
        ∀ q ∈ s.next.2.scanner.openings, q.loc.offset ≤ e.loc.offset) := by
  intro s
  obtain ⟨es, hes, -, -⟩ := calls_history cs (Session.new t source name o memory)
  change History t (.start t source name) es s.scanner at hes
  obtain ⟨-, hlaid⟩ := hes.laid
  refine ⟨⟨hes.kept.length_eq, ?_⟩, hlaid.openings, ?_, ?_⟩
  · intro i f hi hf hb
    obtain ⟨w, b, -, hr, -⟩ := hes.kept.record (Nat.succ_lt_succ hi) hf hb
    exact ⟨b, hr⟩
  · intro q hq
    rw [Scanner.mem_openings] at hq
    exact ⟨hlaid.before q hq, (hlaid.stands q hq).found⟩
  · intro hf htok hrest hdepth
    obtain ⟨fs, k, hfs, -, -, hseek⟩ := seek_reaches s
    obtain ⟨h1, h2, -⟩ := next_of_seek hf
    rw [h1, hseek] at htok
    rw [h2, hseek] at hrest hdepth ⊢
    rw [h1, hseek]
    have ht : s.table = t := calls_table _ cs
    unfold step at htok hrest hdepth ⊢
    simp only at htok hrest hdepth ⊢
    cases hk : k.step s.table s.options.policy with
    | token tok k' => simp [hk] at htok
    | finish k' =>
      simp only [hk] at hdepth
      obtain ⟨-, h0, rfl⟩ := Scanner.step_finish_iff.1 hk
      simp only at hdepth
      omega
    | fail e k' =>
      simp only [hk] at hrest hdepth ⊢
      obtain ⟨rfl, rfl⟩ := Scanner.fail_at_end hk hrest hdepth
      rw [ht] at hfs
      obtain ⟨-, hlaid'⟩ := (hes.trans hfs).laid
      exact ⟨_, rfl, (Scanner.unterminated_loc hdepth).2, hlaid'.last hdepth⟩

/-- A template in a parenthesis of a substitution: the text ends in the inner template, which is to blame. -/
theorem inner_template_blamed :
    let s := ((Session.new Sample.table "`$\x7b(`".toList "t" {} ()).calls [.next, .next, .next, .next]).2
    s.failure = none ∧ s.next.2.scanner.rest = [] ∧ 0 < s.next.2.scanner.stack.depth ∧
      ∃ e, s.next.1 = .error e ∧ e.cause.kind = .unterminatedConstruct ∧
        s.next.2.scanner.openings.getLast?.map (·.loc) = some e.loc := by
  intro s
  have hf : s.failure = none := by decide
  have hn : s.next.1 = .error ⟨.unterminatedState "TEMPLATE", ⟨4, 1, 5, "t"⟩⟩ := error?_eq_some.1 (by decide)
  have hr : s.next.2.scanner.rest = [] := by decide
  have hd : 0 < s.next.2.scanner.stack.depth := by decide
  obtain ⟨-, -, -, hend⟩ := openings_follow_text Sample.table "`$\x7b(`".toList "t" {} () [.next, .next, .next, .next]
  obtain ⟨e, he, hkind, hlast, -⟩ := hend hf (fun tok htok => by rw [hn] at htok; cases htok) hr hd
  exact ⟨hf, hr, hd, e, he, hkind, hlast⟩

/-- Without the states that are not balanced the list would end with the parenthesis, which is not to blame: the
template opened behind it is. -/
theorem balanced_openings_do_not_tell :
    let s := ((Session.new Sample.table "`$\x7b(`".toList "t" {} ()).calls [.next, .next, .next, .next]).2
    s.scanner.rest = [] ∧ 0 < s.scanner.stack.depth ∧
      (s.scanner.openings.filter Opening.ofBalanced).getLast?.map (·.loc) = some ⟨3, 1, 4, "t"⟩ ∧
      s.next.1 = .error ⟨.unterminatedState "TEMPLATE", ⟨4, 1, 5, "t"⟩⟩ := by
  exact ⟨by decide, by decide, by decide, error?_eq_some.1 (by decide)⟩

end Session
end ModalLexer
