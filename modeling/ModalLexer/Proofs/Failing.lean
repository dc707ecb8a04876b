import ModalLexer.Proofs.Openings
/-!
# Failing — where a failure leaves the scanner

A step that fails changes neither the states nor the records, and it stays where it began: behind the last token taken,
which is as far as any location it reports (`failing_step_stays`).  The one exception is a rule that leaves the bottom
state.  It is refused only after its text has been taken, so the scanner and the report stand behind that text
(`underflow_passes_lexeme`).
-/
namespace ModalLexer
namespace Scanner

variable {source : Text} {name : String} {loc : Location} {t : Table} {p : Policy} {s s' : Scanner} {e : ScanError}
  {ws : List BracketWord}

/-- A mismatch is reported at the bracket itself or at an open one. -/
theorem pass_error {b : Brackets} {c : Char} (h : b.pass c loc = .error e) :
    e.cause.kind = .balancerMismatch ∧ (e.loc = loc ∨ ∃ o ∈ b.opened, e.loc = o.loc) := by
  unfold Brackets.pass at h
  split at h
  · cases h
  · split at h
    · cases h
    · split at h
      · cases h
      · unfold Brackets.close at h
        cases hb : b.opened with
        | nil =>
          simp only [hb, Except.error.injEq] at h
          subst h
          exact ⟨rfl, .inl rfl⟩
        | cons o os =>
          by_cases ho : Brackets.closerFor? o.bracket = some c
          · simp [hb, if_pos ho] at h
          · simp only [hb, if_neg ho, Except.error.injEq] at h
            subst h
            exact ⟨rfl, .inr ⟨o, List.mem_cons_self, rfl⟩⟩

/-- Balancing fails by passing a bracket through the record of a balanced state. -/
theorem balance_eq_error {kind : Kind} {lexeme : Text} (h : s.balance kind lexeme = .error e) :
    s.stack.top.state.balanced = true ∧ ∃ c b bs, s.records = b :: bs ∧ b.pass c s.loc = .error e := by
  unfold balance at h
  split at h
  · rename_i c b bs hb hr
    cases hp : b.pass c s.loc with
    | ok r => rw [hp] at h; cases h
    | error e' =>
      rw [hp] at h
      cases h
      exact ⟨hb, c, b, bs, hr, hp⟩
  · cases h

theorem balance_error_kind {kind : Kind} {lexeme : Text} (h : s.balance kind lexeme = .error e) :
    e.cause.kind = .balancerMismatch := by
  obtain ⟨-, c, b, bs, -, hp⟩ := balance_eq_error h
  exact (pass_error hp).1

theorem unterminated_kind (s : Scanner) : s.unterminated.cause.kind = .unterminatedConstruct := by
  unfold unterminated
  simp only
  split <;> rfl

/-- **A bracket that does not balance** is reported at the place of the scanner or before it. -/
theorem balance_error {kind : Kind} {lexeme : Text} (hk : Kept s.stack.frames ws s.records)
    (hl : Laid source name s.loc (trail s.stack.frames s.records)) (h : s.balance kind lexeme = .error e) :
    e.cause.kind = .balancerMismatch ∧ e.loc.offset ≤ s.loc.offset := by
  refine ⟨balance_error_kind h, ?_⟩
  obtain ⟨hb, c, b, bs, hr, hp⟩ := balance_eq_error h
  obtain ⟨-, hloc | ⟨o, ho, hloc⟩⟩ := pass_error hp
  · exact Nat.le_of_eq (congrArg (·.offset) hloc)
  · -- the opener is in the trail, since the record belongs to a state above the bottom
    have hfs : s.stack.frames = s.stack.top :: s.stack.below := rfl
    cases hbelow : s.stack.below with
    | nil =>
      have hnil : s.records = [] := hk.records_of_bottom (by rw [hfs, hbelow]; rfl)
      rw [hr] at hnil
      cases hnil
    | cons g fs =>
      have hmem : Opening.bracket o ∈ trail s.stack.frames s.records := by
        rw [hfs, hbelow, hr, trail_balanced hb]
        exact List.mem_append_left _ (List.mem_map_of_mem ho)
      rw [hloc]
      exact hl.before _ hmem

theorem balance_bottom {kind : Kind} {lexeme : Text} {ends : Bool} {records : List Brackets}
    (hk : Kept s.stack.frames ws s.records) (hd : s.stack.depth = 0)
    (h : s.balance kind lexeme = .ok (ends, records)) : records = s.records := by
  have hnil : s.records = [] := hk.records_of_bottom (congrArg (· + 1) hd)
  rw [balance_of_other fun ho => ho.2.2.2 hnil] at h
  cases h
  rfl

/-- **What a failing step leaves behind**, in a scanner whose records and openings are in order. -/
theorem fail_leaves (hk : Kept s.stack.frames ws s.records)
    (hl : Laid source name s.loc (trail s.stack.frames s.records)) (h : s.step t p = .fail e s') :
    (e.cause.kind ≠ .stateUnderflow ∧ s' = s ∧ e.loc.offset ≤ s.loc.offset) ∨
    (e.cause.kind = .stateUnderflow ∧ s.stack.depth = 0 ∧ e.loc = s'.loc ∧
      ∃ m, t.choose? p s.stack.top.state s.rest = some m ∧ s' = s.skipChars m.length) := by
  rcases step_fail h with ⟨rfl, ⟨-, hd, rfl⟩ | ⟨c, -, -, rfl⟩ | ⟨m, -, ⟨-, rfl⟩ | ⟨-, hb⟩⟩⟩ |
    ⟨m, ends, records, hm, -, hb, -, hd, rfl, rfl⟩
  · obtain ⟨hhead, hkind⟩ := unterminated_loc hd
    obtain ⟨o, ho, hloc⟩ := Option.map_eq_some_iff.1 hhead
    refine .inl ⟨by rw [hkind]; decide, rfl, ?_⟩
    rw [← hloc]
    exact hl.before o (List.mem_of_mem_head? ho)
  · exact .inl ⟨by simp [Cause.kind], rfl, Nat.le_refl _⟩
  · exact .inl ⟨by simp [Cause.kind], rfl, Nat.le_refl _⟩
  · obtain ⟨hkind, hle⟩ := balance_error hk hl hb
    exact .inl ⟨by rw [hkind]; decide, rfl, hle⟩
  · obtain rfl := balance_bottom hk hd hb
    exact .inr ⟨rfl, hd, rfl, m, hm, rfl⟩

end Scanner

theorem Tiled.offset_eq {source : Text} {name : String} {toks : List Token} {s : Scanner}
    (h : Tiled source name toks s) : s.loc.offset = Token.endOfAll toks := by
  rw [h.endOfAll toks [] (List.append_nil toks).symm, h.loc, Location.start_advance_offset]

namespace Session

variable {σ : Type}

open Scanner (Event History taken)

/-- **A failing step stays where it began.**  A call for a token that fails does so by a step of the scanner, which no
failure precedes.  Such a step leaves the states and the records alone, and no location it reports is behind the scanner.
Unless it fails to leave the bottom state, it leaves the whole scanner alone, which then stands behind the last token
taken; if it does, it stands behind the text of the rule. -/
theorem failing_step_stays (t : Table) (source : Text) (name : String) (o : Options) (memory : σ)
    (cs : List (Call σ)) :
    let s := ((Session.new t source name o memory).calls cs).2
    (∀ e, s.failure = none → s.next.1 = .error e →
      ∃ es k, History t (.start t source name) es k ∧ (∀ err, Event.failed err ∉ es) ∧
        k.step t s.options.policy = .fail e s.next.2.scanner) ∧
    ∀ (es : List Event) (k : Scanner), History t (.start t source name) es k → (∀ err, Event.failed err ∉ es) →
      ∀ (p : Policy) (e : ScanError) (k' : Scanner), k.step t p = .fail e k' →
        k'.stack = k.stack ∧ k'.records = k.records ∧ e.loc.offset ≤ k'.loc.offset ∧
        (e.cause.kind ≠ .stateUnderflow → k' = k ∧ k.loc.offset = Token.endOfAll (taken es)) ∧
        (e.cause.kind = .stateUnderflow → e.loc = k'.loc ∧
          ∃ m, t.choose? p k.stack.top.state k.rest = some m ∧ k' = k.skipChars m.length) := by
  intro s
  refine ⟨?_, ?_⟩
  · intro e hf hn
    obtain ⟨es, hes, hfail, -⟩ := calls_history cs (Session.new t source name o memory)
    change History t (.start t source name) es s.scanner at hes
    have hnone : ∀ err, Event.failed err ∉ es := by
      intro err herr
      have hkept : s.failure = some err := hfail err herr
      rw [hf] at hkept
      cases hkept
    obtain ⟨fs, k, hfs, hnone', -, hseek⟩ := seek_reaches s
    obtain ⟨h1, h2, -⟩ := next_of_seek hf
    have ht : s.table = t := calls_table _ cs
    rw [ht] at hfs
    refine ⟨es ++ fs, k, hes.trans hfs, ?_, ?_⟩
    · intro err herr
      rcases List.mem_append.1 herr with herr | herr
      · exact hnone err herr
      · exact hnone' err herr
    · rw [h1, hseek] at hn
      rw [h2, hseek]
      unfold step at hn ⊢
      simp only [ht] at hn ⊢
      cases hk : k.step t s.options.policy with
      | token tok k' => simp [hk] at hn
      | finish k' => simp [hk] at hn
      | fail e' k' =>
        simp only [hk, Except.error.injEq] at hn ⊢
        rw [hn]
  · intro es k hes hnone p e k' hstep
    obtain ⟨-, hlaid⟩ := hes.laid
    have htiled := Tiled.history hes hnone
    rcases Scanner.fail_leaves hes.kept hlaid hstep with ⟨hkind, rfl, hle⟩ | ⟨hkind, -, hloc, m, hm, rfl⟩
    · exact ⟨rfl, rfl, hle, fun _ => ⟨rfl, htiled.offset_eq⟩, fun h => absurd h hkind⟩
    · exact ⟨rfl, rfl, Nat.le_of_eq (congrArg (·.offset) hloc), fun h => absurd hkind h, fun _ => ⟨hloc, m, hm, rfl⟩⟩

/-- A closing brace does not fit the parenthesis before it: the session stays before the brace, behind the parenthesis,
where the failure is reported. -/
theorem mismatch_stays :
    let s := ((Session.new Sample.table "`$\x7b(\x7d".toList "t" {} ()).calls [.next, .next, .next]).2
    ∃ es k, History Sample.table (.start Sample.table "`$\x7b(\x7d".toList "t") es k ∧
      s.next.1 = .error ⟨.wrongCloser '(' '\x7d' ⟨4, 1, 5, "t"⟩, ⟨3, 1, 4, "t"⟩⟩ ∧ s.next.2.scanner = k ∧
      k.loc.offset = 4 ∧ Token.endOfAll (taken es) = 4 := by
  intro s
  have hn : s.next.1 = .error ⟨.wrongCloser '(' '\x7d' ⟨4, 1, 5, "t"⟩, ⟨3, 1, 4, "t"⟩⟩ :=
    error?_eq_some.1 (by decide)
  obtain ⟨hcall, hall⟩ :=
    failing_step_stays Sample.table "`$\x7b(\x7d".toList "t" {} () [.next, .next, .next]
  obtain ⟨es, k, hes, hnone, hstep⟩ := hcall _ rfl hn
  obtain ⟨-, -, -, hstay, -⟩ := hall es k hes hnone _ _ _ hstep
  obtain ⟨hk, hoff⟩ := hstay (by decide)
  have h4 : k.loc.offset = 4 := by
    rw [← hk]
    rfl
  have hk' : s.next.2.scanner = k := by simpa only [s] using hk
  exact ⟨es, k, hes, hn, hk', h4, by rw [← hoff, h4]⟩

end Session

/-- A rule that leaves whatever state it is eligible in, which is the bottom one. -/
def Sample.leaving : Table :=
  ((Builder.new "DEFAULT").rule (RuleSpec.literal "close" ")" .punctuator).pop).build.toOption.getD
    ⟨⟨0, "DEFAULT", false⟩, [], [], []⟩

/-- **Leaving the bottom state is refused behind the lexeme**: the first step of a text that is one parenthesis fails,
and the scanner stands behind the parenthesis, which is no token. -/
theorem underflow_passes_lexeme :
    let s := Scanner.start Sample.leaving [')'] "t"
    ∃ s', s.step Sample.leaving .longest = .fail ⟨.bottomPopped "DEFAULT", ⟨1, 1, 2, "t"⟩⟩ s' ∧
      s.loc = ⟨0, 1, 1, "t"⟩ ∧ s'.loc = ⟨1, 1, 2, "t"⟩ ∧ s'.rest = [] := by
  exact ⟨_, rfl, rfl, rfl, rfl⟩

end ModalLexer
