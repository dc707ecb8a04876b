import ModalLexer.Proofs.Beside
import ModalLexer.Proofs.History
/-!
# ScanAll — a scan that keeps trivia only adds them

A scan of a whole text takes the tokens one after another and may enter the state of regular expressions before one of
them.  A scan that hides trivia decides that before the trivia, and one that shows them behind.  `scanFrom_turn` is one
turn of either.  Over the turns both stay at the same places (`scanFrom_hidden`), so one result is the other without its
trivia, down to the errors (`scan_all_only_adds_trivia`).
-/
namespace ModalLexer
namespace Grammar

open Scanner (Skips Stops Beside InCode)

/-- A session that nothing has happened to, at the place of a scanner. -/
def quiet (t : Table) (source : Text) (skip : KindSet) (k : Scanner) : Session Unit :=
  { source, table := t, options := ⟨skip, .longest⟩, scanner := k, observer := none, memory := (), paused := false,
    failure := none }

/-- A scan from the place of a session on. -/
def scanFrom (g : Grammar) (afterOperand : Bool) (s : Session Unit) : Except ScanError (List Token) :=
  scanWithin g (s.scanner.rest.length + 1) afterOperand s

/-- A turn of a scan, after the session was prepared for it. -/
def turn (g : Grammar) (afterOperand : Bool) (s : Session Unit) : Except ScanError (List Token) :=
  match s.next with
  | (.error e, _) => .error e
  | (.ok none, _) => .ok []
  | (.ok (some tok), s) => (scanFrom g (operandAfter afterOperand tok) s).map (tok :: ·)

/-! ## Turns -/

theorem prepare_rest {g : Grammar} {a : Bool} {s s' : Session Unit} (h : prepare g a s = .ok s') :
    s'.scanner.rest = s.scanner.rest := by
  unfold prepare at h
  split at h
  · have hp := Session.peek_session s
    generalize s.peek = r at h hp
    obtain ⟨e | _ | tok, s₁⟩ := r <;> simp only at h hp
    · cases h
    · cases h; rw [hp]
    · split at h
      · subst hp
        unfold Session.pushState at h
        split at h
        · cases h; rfl
        · cases h
      · cases h; rw [hp]
  · cases h; rfl

/-- Fuel beyond the length of the rest makes no difference. -/
theorem scanWithin_enough (g : Grammar) (m : Nat) : ∀ (n : Nat) (a : Bool) (s : Session Unit),
    s.scanner.rest.length < m → s.scanner.rest.length < n → scanWithin g m a s = scanWithin g n a s := by
  induction m with
  | zero => intro n a s hm; omega
  | succ m ih =>
    intro n a s hm hn
    obtain ⟨n, rfl⟩ := Nat.exists_eq_succ_of_ne_zero (Nat.ne_of_gt (Nat.zero_lt_of_lt hn))
    simp only [scanWithin]
    cases hp : prepare g a s with
    | error e => rfl
    | ok s₁ =>
      have hr := prepare_rest hp
      simp only [bind, Except.bind]
      rcases hnext : s₁.next with ⟨_ | _ | tok, s₂⟩
      · rfl
      · rfl
      · have := Session.next_shorter hnext
        rw [hr] at this
        simp only
        rw [ih n _ s₂ (by omega) (by omega)]

theorem scanFrom_eq (g : Grammar) (a : Bool) (s : Session Unit) :
    scanFrom g a s = match prepare g a s with
      | .error e => .error e
      | .ok s => turn g a s := by
  rw [scanFrom, scanWithin]
  cases hp : prepare g a s with
  | error e => rfl
  | ok s₁ =>
    have hr := prepare_rest hp
    simp only [bind, Except.bind, turn]
    rcases hnext : s₁.next with ⟨_ | _ | tok, s₂⟩
    · rfl
    · rfl
    · have := Session.next_shorter hnext
      rw [hr] at this
      simp only
      rw [scanFrom, scanWithin_enough g _ (s₂.scanner.rest.length + 1) _ s₂ (by omega) (by omega)]
      cases scanWithin g (s₂.scanner.rest.length + 1) (operandAfter a tok) s₂ <;> rfl

/-! ## What comes next -/

section

variable {t : Table} {source : Text} {skip : KindSet} {k k' k₂ : Scanner} {tok : Token} {toks : List Token}
  {g : Grammar} {a : Bool}

/-- The loop over hidden kinds comes from one place to the step at another. -/
def Reaches (t : Table) (source : Text) (skip : KindSet) (k k' : Scanner) : Prop :=
  (quiet t source skip k).seek = (quiet t source skip k').step

theorem reaches_self (t : Table) (source : Text) (k : Scanner) : Reaches t source .empty k k :=
  Session.seek_eq_step rfl

theorem step_token (h : k.step t .longest = .token tok k') :
    (quiet t source skip k).step = (.ok (some tok), quiet t source skip k') := by
  unfold Session.step
  simp only [quiet, h]

/-- **Hidden trivia are stepped over.** -/
theorem reaches_of_skips (h : Skips t .longest k toks k') (hs : Stops t .longest k') :
    Reaches t source .trivia k k' := by
  induction h with
  | nil k =>
    rw [Reaches, Session.seek_eq]
    cases hk : k.step t .longest with
    | token tok k₁ =>
      rw [step_token hk]
      exact if_neg (Bool.eq_false_iff.1 (hs tok k₁ hk))
    | finish k₁ => unfold Session.step; simp only [quiet, hk]
    | fail e k₁ => unfold Session.step; simp only [quiet, hk]
  | cons hk hkind _ ih =>
    rw [Reaches, Session.seek_eq, step_token hk]
    exact (if_pos hkind).trans (ih hs)

theorem next_of_reaches (h : Reaches t source skip k k') :
    (quiet t source skip k).next = match k'.step t .longest with
      | .fail e k₂ => (.error e, { quiet t source skip k₂ with failure := some e })
      | .finish k₂ => (.ok none, quiet t source skip k₂)
      | .token tok k₂ => (.ok (some tok), quiet t source skip k₂) := by
  have hf : (quiet t source skip k).failure = none := rfl
  unfold Session.next
  rw [h, hf]
  unfold Session.step
  simp only [quiet]
  cases k'.step t .longest <;> rfl

/-- A turn after preparing, told by the step that comes next behind what is hidden. -/
theorem turn_eq (h : Reaches t source skip k k') :
    turn g a (quiet t source skip k) = match k'.step t .longest with
      | .fail e _ => .error e
      | .finish _ => .ok []
      | .token tok k₂ => (scanFrom g (operandAfter a tok) (quiet t source skip k₂)).map (tok :: ·) := by
  rw [turn, next_of_reaches h]
  cases k'.step t .longest <;> rfl

/-- **A turn of a scan**: what comes next decides whether the state of regular expressions is entered first. -/
theorem scanFrom_turn (h : Reaches t source skip k k') :
    scanFrom g a (quiet t source skip k) = match k'.step t .longest with
      | .fail e _ => .error e
      | .finish _ => .ok []
      | .token tok k₂ =>
        if (g = .ecmascript ∧ a = false) ∧ isSlash tok = true then
          match (quiet t source skip k).pushState Ecmascript.regexpState with
          | .error e => .error e
          | .ok s => turn g a s
        else (scanFrom g (operandAfter a tok) (quiet t source skip k₂)).map (tok :: ·) := by
  have hpeek : (quiet t source skip k).peek = ((quiet t source skip k).next.1, quiet t source skip k) :=
    Prod.ext (Session.peek_answer _) (Session.peek_session _)
  rw [next_of_reaches h] at hpeek
  have hturn := turn_eq (g := g) (a := a) h
  rw [scanFrom_eq, prepare, hpeek]
  by_cases hg : g = .ecmascript ∧ (!a) = true
  · rw [if_pos hg]
    have hg : g = .ecmascript ∧ a = false := ⟨hg.1, by simpa using hg.2⟩
    cases hk : k'.step t .longest with
    | fail e k₂ => rfl
    | finish k₂ =>
      rw [hk] at hturn
      exact hturn
    | token tok k₂ =>
      rw [hk] at hturn
      cases hslash : isSlash tok with
      | true => simp only [hg, hslash, and_self, if_true]
      | false =>
        simp only [hslash, Bool.false_eq_true, and_false, if_false]
        exact hturn
  · rw [if_neg hg]
    have hg : ¬((g = .ecmascript ∧ a = false)) := fun h => hg ⟨h.1, by rw [h.2]; rfl⟩
    simp only [hturn, hg, false_and, if_false]

/-! ## Without trivia -/

def hideTrivia (toks : List Token) : List Token := toks.filter fun tok => !KindSet.trivia.contains tok.kind

theorem hideTrivia_trivia {x : Except ScanError (List Token)} (h : tok.kind.isTrivia = true) :
    (x.map (tok :: ·)).map hideTrivia = x.map hideTrivia := by
  cases x with
  | error e => rfl
  | ok toks =>
    have hk : KindSet.trivia.contains tok.kind = true := h
    exact congrArg Except.ok (List.filter_cons_of_neg (by rw [hk]; decide))

theorem hideTrivia_visible {x : Except ScanError (List Token)} (h : tok.kind.isTrivia = false) :
    (x.map (tok :: ·)).map hideTrivia = (x.map hideTrivia).map (tok :: ·) := by
  cases x with
  | error e => rfl
  | ok toks =>
    have hk : KindSet.trivia.contains tok.kind = false := h
    exact congrArg Except.ok (List.filter_cons_of_pos (by rw [hk]; rfl))

theorem not_isSlash (h : tok.kind.isTrivia = true) : isSlash tok = false := by
  refine Bool.eq_false_iff.2 fun hslash => ?_
  rw [(isSlash_iff.1 hslash).1] at h
  exact absurd h (by decide)

theorem operandAfter_trivia (a : Bool) (h : tok.kind.isTrivia = true) : operandAfter a tok = a := if_pos h

/-- A scan that shows trivia takes them one after another. -/
theorem scanFrom_skips (h : Skips t .longest k toks k') :
    (scanFrom g a (quiet t source .empty k)).map hideTrivia =
      (scanFrom g a (quiet t source .empty k')).map hideTrivia := by
  induction h with
  | nil => rfl
  | cons hk hkind _ ih =>
    rw [scanFrom_turn (reaches_self t source _), hk]
    simp only [not_isSlash hkind, Bool.false_eq_true, and_false, if_false]
    rw [hideTrivia_trivia hkind, operandAfter_trivia a hkind]
    exact ih

variable {code : List State} {comment regexp : State}

theorem pushState_regexp (hT : t.Separates code comment regexp) :
    (quiet t source skip k).pushState Ecmascript.regexpState =
      .ok (quiet t source skip { k with stack := k.stack.push regexp k.loc }) := by
  unfold Session.pushState
  simp only [quiet, hT.entered, Scanner.enter, hT.plain, Bool.false_eq_true, if_false]

/-- Whatever is visible behind trivia among code stands among the same code. -/
theorem stack_of_skips (hT : t.Separates code comment regexp) (hc : InCode code k.stack)
    (hsk : Skips t .longest k toks k') (hk : k'.step t .longest = .token tok k₂) (hvis : tok.kind.isTrivia = false) :
    k'.stack = k.stack ∧ ∃ toks', Skips t .longest { k with stack := k.stack.push regexp k.loc } toks'
      { k' with stack := k'.stack.push regexp k.loc } := by
  have start : Beside comment regexp k.loc k.stack k.stack (k.stack.push regexp k.loc) := .code
  obtain ⟨toks', j, hsk', -, hb⟩ := hsk.beside hT (hc _ List.mem_cons_self) start
  obtain ⟨hstack, rfl⟩ := hb.visible hT hk hvis
  rw [← hstack] at hsk' ⊢
  exact ⟨rfl, toks', hsk'⟩

theorem stops_of_token (h : k.step t .longest = .token tok k') (hvis : tok.kind.isTrivia = false) :
    Stops t .longest k := fun tok' k'' h' => by
  rw [h] at h'
  cases h'
  exact hvis

theorem stops_of_fail {e : ScanError} (h : k.step t .longest = .fail e k') : Stops t .longest k := fun tok k'' h' => by
  rw [h] at h'
  cases h'

/-- **A scan that hides trivia is the other without them.**  At a slash that begins a regular expression, the one
enters its state before the trivia and the other behind them. -/
theorem scanFrom_hidden
    (hT : g = .ecmascript → t.Separates Ecmascript.codeStates Ecmascript.comment Ecmascript.regexp) :
    ∀ (n : Nat) (k : Scanner) (a : Bool), k.rest.length < n →
      (g = .ecmascript → InCode Ecmascript.codeStates k.stack) →
      scanFrom g a (quiet t source .trivia k) = (scanFrom g a (quiet t source .empty k)).map hideTrivia
  | n + 1, k, a, hn, hc => by
    obtain ⟨toks, k', hsk, hst⟩ := Scanner.exists_skips t .longest (n + 1) k hn
    rw [scanFrom_skips hsk, scanFrom_turn (reaches_of_skips hsk hst), scanFrom_turn (reaches_self t source k')]
    cases hk' : k'.step t .longest with
    | fail e k₂ => rfl
    | finish k₂ => rfl
    | token tok k₂ =>
      have hvis := hst tok k₂ hk'
      have hle := hsk.length_le
      simp only
      by_cases hslash : (g = .ecmascript ∧ a = false) ∧ isSlash tok = true
      · rw [if_pos hslash, if_pos hslash]
        obtain ⟨⟨hg, -⟩, hslash⟩ := hslash
        have hsep := hT hg
        obtain ⟨hstack, toks', hsk'⟩ := stack_of_skips hsep (hc hg) hsk hk' hvis
        have hcode : InCode Ecmascript.codeStates k'.stack := hstack ▸ hc hg
        rw [pushState_regexp hsep, pushState_regexp hsep]
        simp only
        rcases Scanner.regexp_step hsep (hcode _ List.mem_cons_self) hk' hslash with
          ⟨e, he⟩ | ⟨tok', k₃, h₃, hvis', hk₃⟩
        · rw [turn_eq (reaches_of_skips hsk' (stops_of_fail (he _))), turn_eq (reaches_self t source _), he, he]
          rfl
        · have hlt := Scanner.step_token_shorter (h₃ k'.loc)
          change k₃.rest.length < k'.rest.length at hlt
          rw [turn_eq (reaches_of_skips hsk' (stops_of_token (h₃ _) hvis')), turn_eq (reaches_self t source _), h₃, h₃]
          simp only
          rw [hideTrivia_visible hvis', scanFrom_hidden hT n k₃ _ (by omega) fun _ => hk₃ ▸ hcode]
      · rw [if_neg hslash, if_neg hslash, hideTrivia_visible hvis]
        have hlt := Scanner.step_token_shorter hk'
        rw [scanFrom_hidden hT n k₂ _ (by omega) fun hg => ?_]
        obtain ⟨hstack, -⟩ := stack_of_skips (hT hg) (hc hg) hsk hk' hvis
        exact InCode.step (hT hg) (hstack ▸ hc hg) hk' hvis

end

theorem session_eq (g : Grammar) (source : Text) (name : String) :
    g.session source name () = match g.table with
      | .ok t => .ok (quiet t source .trivia (.start t source name))
      | .error e => .error (.table g e) := by
  have ho : g.options = {} := by cases g <;> rfl
  unfold session
  rw [ho]
  rfl

theorem scan_eq (g : Grammar) (source : Text) (name : String) (all : Bool) :
    g.scan source name all = match g.table with
      | .error e => .error (.table g e)
      | .ok t => match scanFrom g false (quiet t source (if all then .empty else .trivia) (.start t source name)) with
        | .ok toks => .ok toks
        | .error e => .error (GrammarError.syntaxError e) := by
  unfold scan
  rw [session_eq]
  cases g.table with
  | error e => rfl
  | ok t => cases all <;> rfl

/-- **A scan that shows trivia only adds them.**  Both scans of a text fail with the same error, or the tokens of the
one are those of the other without the trivia.  For the table of ECMAScript has it that trivia scanned from inside the
state of regular expressions are cut as they are among code. -/
theorem scan_all_only_adds_trivia :
    (∀ (g : Grammar) (source : Text) (name : String),
      g.scan source name false = (g.scan source name true).map hideTrivia) ∧
    ∃ t, ecmascriptTable = .ok t ∧ ∀ (k k' : Scanner) (toks : List Token),
      k.stack.top.state ∈ Ecmascript.codeStates → Skips t .longest k toks k' →
      ∃ toks' k'', Skips t .longest (k.enter Ecmascript.regexp k.loc) toks' k'' ∧
        toks'.map Token.cut = toks.map Token.cut ∧ k''.rest = k'.rest ∧ k''.loc = k'.loc := by
  refine ⟨fun g source name => ?_, ?_⟩
  · rw [scan_eq, scan_eq]
    cases ht : g.table with
    | error e => rfl
    | ok t =>
      have hT (hg : g = .ecmascript) : t.Separates Ecmascript.codeStates Ecmascript.comment Ecmascript.regexp := by
        subst hg
        exact Ecmascript.separates ht
      have hc (hg : g = .ecmascript) : InCode Ecmascript.codeStates (Scanner.start t source name).stack := by
        intro f hf
        rw [List.mem_singleton.1 hf]
        exact (hT hg).initial
      have h : scanFrom g false (quiet t source .trivia (.start t source name)) = _ :=
        scanFrom_hidden hT (source.length + 1) _ false (Nat.lt_succ_self _) hc
      simp only [Bool.false_eq_true, if_false, if_true, h]
      cases scanFrom g false (quiet t source .empty (.start t source name)) <;> rfl
  · obtain ⟨t, ht, hT⟩ := Ecmascript.exists_table
    refine ⟨t, ht, fun k k' toks hk hsk => ?_⟩
    have start : Beside Ecmascript.comment Ecmascript.regexp k.loc k.stack k.stack
        (k.stack.push Ecmascript.regexp k.loc) := .code
    obtain ⟨toks', j, hsk', hcut, -⟩ := hsk.beside hT hk start
    exact ⟨toks', _, hsk', hcut, rfl, rfl⟩

/-- A comment and a blank before a slash that begins a regular expression.  The comment opens alike in its state. -/
theorem comment_before_regexp :
    let text := "/**/ /a/".toList
    (scan .ecmascript text "t" false).toOption.map (·.map (·.kind)) = some [.regexp] ∧
      ∃ t tok k toks k', ecmascriptTable = .ok t ∧ (Scanner.start t text "t").step t .longest = .token tok k ∧
        Skips t .longest ((Scanner.start t text "t").enter Ecmascript.regexp (.start "t")) toks k' ∧
        toks.map Token.cut = [tok.cut] ∧ k'.rest = k.rest := by
  intro text
  -- both are about the one table, which is built once that way
  have hany : ((scan .ecmascript text "t" true).toOption.map fun toks => (hideTrivia toks).map (·.kind)) =
        some [.regexp] ∧
      (ecmascriptTable.toOption.any fun t =>
        match (Scanner.start t text "t").step t .longest with
        | .token tok _ => tok.kind.isTrivia
        | _ => false) = true := by decide +kernel
  obtain ⟨hall, hfirst⟩ := hany
  obtain ⟨hscan, t, ht, hcut⟩ := scan_all_only_adds_trivia
  refine ⟨?_, ?_⟩
  · rw [hscan]
    cases h : scan .ecmascript text "t" true with
    | error e => rw [h] at hall; cases hall
    | ok toks => rw [h] at hall; exact hall
  · rw [ht] at hfirst
    change (match (Scanner.start t text "t").step t .longest with
      | .token tok _ => tok.kind.isTrivia
      | _ => false) = true at hfirst
    cases hs : (Scanner.start t text "t").step t .longest with
    | fail e k => rw [hs] at hfirst; cases hfirst
    | finish k => rw [hs] at hfirst; cases hfirst
    | token tok k =>
      rw [hs] at hfirst
      obtain ⟨toks, k', hsk, hcuts, hrest, -⟩ :=
        hcut (.start t text "t") k [tok] (Ecmascript.separates ht).initial (.cons hs hfirst (.nil k))
      exact ⟨t, tok, k, toks, k', ht, hs, hsk, hcuts, hrest⟩

end Grammar
end ModalLexer
