import ModalLexer.Proofs.Skipping
/-!
# Pausing — an interrupted iteration loses nothing

An observer may ask for a pause at any token, and then the iteration stops until it is resumed.  Iterating, resuming and
iterating again for as long as there is a pause makes *stretches* of turns (`Session.stretches`).  They are the turns of
the transcript without an observer, cut behind each token for which a pause was asked (`stretches_eq_cut`), so one turn
of a session decides one turn of its stretches, and the induction is on the transcript.
-/
namespace ModalLexer

variable {σ : Type}

/-- A turn of an iteration that there is: a token, or an error. -/
abbrev Turn := Except ScanError Token

/-- What may be seen of a scanner in a text. -/
def Scanner.view (source : Text) (k : Scanner) : View := ⟨source, k.loc, k.stack, k.bracketDepth⟩

/-- What an observer answers to each of the tokens it is shown in turn, and what it remembers then. -/
def Observer.answers (o : Observer σ) : Sights → σ → List (Token × Signal) × σ
  | [], memory => ([], memory)
  | (v, tok) :: sights, memory =>
    let r := o.answers sights (o v tok memory).2
    ((tok, (o v tok memory).1) :: r.1, r.2)

namespace Transcript

/-- The error of the ending, if it is one. -/
def error? (w : Transcript) : Option ScanError := (Reply.answer w.ending.1).error?

def turns (w : Transcript) : List Turn := w.tokens.map (.ok ·.1) ++ w.error?.toList.map .error

/-- What an observer is shown in the course of a transcript. -/
def sights (w : Transcript) (source : Text) : Sights := w.tokens.map fun e => (e.2.view source, e.1)

/-- The turns of a transcript, each with what the observer answers to it.  It is not asked about an error. -/
def marked (w : Transcript) (source : Text) (o : Observer σ) (memory : σ) : List (Turn × Signal) :=
  (o.answers (w.sights source) memory).1.map (fun a => (.ok a.1, a.2)) ++
    w.error?.toList.map fun e => (.error e, .proceed)

theorem answers_tokens (o : Observer σ) : ∀ (sights : Sights) (memory : σ),
    (o.answers sights memory).1.map (·.1) = sights.map (·.2)
  | [], _ => rfl
  | (v, tok) :: sights, memory => by
    rw [Observer.answers, List.map_cons, answers_tokens o sights, List.map_cons]

theorem marked_turns (w : Transcript) (source : Text) (o : Observer σ) (memory : σ) :
    (w.marked source o memory).map (·.1) = w.turns := by
  have htoks : (o.answers (w.sights source) memory).1.map (·.1) = w.tokens.map (·.1) := by
    rw [answers_tokens, sights, List.map_map]
    rfl
  have hok : ∀ as : List (Token × Signal), as.map (fun a => (.ok a.1 : Turn)) = (as.map (·.1)).map .ok := by
    intro as
    rw [List.map_map]
    rfl
  rw [marked, turns, List.map_append, List.map_map, List.map_map]
  refine congrArg (· ++ _) ((hok _).trans ?_)
  rw [htoks, List.map_map]
  rfl

end Transcript

/-! ## Cutting -/

section Cut

variable {α : Type}

/-- Cuts a list behind each entry that asks for a pause. -/
def cut : List (α × Signal) → List (List (α × Signal))
  | [] => [[]]
  | (a, .pause) :: as => [(a, .pause)] :: cut as
  | (a, .proceed) :: as => (cut as).modifyHead ((a, .proceed) :: ·)

theorem exists_cut : ∀ as : List (α × Signal), ∃ p ps, cut as = p :: ps
  | [] => ⟨_, _, rfl⟩
  | (_, .pause) :: _ => ⟨_, _, rfl⟩
  | (_, .proceed) :: as => by
    obtain ⟨p, ps, h⟩ := exists_cut as
    rw [cut, h]
    exact ⟨_, _, rfl⟩

theorem cut_flatten : ∀ as : List (α × Signal), (cut as).flatten = as
  | [] => rfl
  | (a, .pause) :: as => by rw [cut, List.flatten_cons, cut_flatten as, List.singleton_append]
  | (a, .proceed) :: as => by
    obtain ⟨p, ps, h⟩ := exists_cut as
    have ih := cut_flatten as
    rw [h, List.flatten_cons] at ih
    rw [cut, h, List.modifyHead_cons, List.flatten_cons, List.cons_append, ih]

/-- **Every piece but the last ends with a pause**, the first in it. -/
theorem mem_dropLast_cut : ∀ (as : List (α × Signal)), ∀ p ∈ (cut as).dropLast,
    ∃ before a, p = before ++ [(a, .pause)] ∧ ∀ e ∈ before, e.2 = .proceed
  | [], p, hp => by cases hp
  | (a, .pause) :: as, p, hp => by
    obtain ⟨q, qs, h⟩ := exists_cut as
    have hp : p ∈ ([(a, .pause)] :: cut as).dropLast := hp
    rw [List.dropLast_cons_of_ne_nil (by rw [h]; exact List.cons_ne_nil _ _)] at hp
    rcases List.mem_cons.1 hp with rfl | hp
    · exact ⟨[], a, rfl, by simp⟩
    · exact mem_dropLast_cut as p hp
  | (a, .proceed) :: as, p, hp => by
    obtain ⟨q, qs, h⟩ := exists_cut as
    have ih := mem_dropLast_cut as
    rw [cut, h, List.modifyHead_cons] at hp
    rw [h] at ih
    cases qs with
    | nil => cases hp
    | cons r rs =>
      rw [List.dropLast_cons_cons] at hp ih
      rcases List.mem_cons.1 hp with rfl | hp
      · obtain ⟨before, b, rfl, hb⟩ := ih q List.mem_cons_self
        refine ⟨(a, .proceed) :: before, b, rfl, fun e he => ?_⟩
        rcases List.mem_cons.1 he with rfl | he
        · rfl
        · exact hb e he
      · exact ih p (List.mem_cons_of_mem _ hp)

theorem getLast?_cut : ∀ (as : List (α × Signal)), ∀ p, (cut as).getLast? = some p → ∀ e ∈ p, e.2 = .proceed
  | [], p, hp => by
    cases hp
    simp
  | (a, .pause) :: as, p, hp => by
    obtain ⟨q, qs, h⟩ := exists_cut as
    have ih := getLast?_cut as p
    rw [cut, h, List.getLast?_cons_cons] at hp
    rw [h] at ih
    exact ih hp
  | (a, .proceed) :: as, p, hp => by
    obtain ⟨q, qs, h⟩ := exists_cut as
    have ih := getLast?_cut as
    rw [cut, h, List.modifyHead_cons] at hp
    rw [h] at ih
    cases qs with
    | nil =>
      cases hp
      intro e he
      rcases List.mem_cons.1 he with rfl | he
      · rfl
      · exact ih q rfl e he
    | cons r rs =>
      rw [List.getLast?_cons_cons] at hp ih
      exact ih p hp

theorem map_cut_proceed (a : α) (as : List (α × Signal)) :
    (cut ((a, .proceed) :: as)).map (·.map (·.1)) = ((cut as).map (·.map (·.1))).modifyHead (a :: ·) := by
  obtain ⟨p, ps, h⟩ := exists_cut as
  rw [cut, h]
  rfl

end Cut

namespace Session

/-! ## Iterating -/

/-- How many turns there can be, the one that ends the iteration apart. -/
def turnsLeft (s : Session σ) : Nat := if s.paused || s.failure.isSome then 0 else s.scanner.rest.length + 1

theorem turnsLeft_lt {s s₁ : Session σ} {r : Turn} (h : s.iterate = (some r, s₁)) : s₁.turnsLeft < s.turnsLeft := by
  cases hb : s.paused || s.failure.isSome with
  | true =>
    rw [iterate_of_stopped hb] at h
    cases h
  | false =>
    rw [iterate_of_running hb] at h
    obtain ⟨h₁, rfl⟩ := Prod.mk.inj h
    have hs : s.turnsLeft = s.scanner.rest.length + 1 := by rw [turnsLeft, hb, if_neg Bool.false_ne_true]
    rw [hs]
    rcases hn : s.next with ⟨e | _ | tok, s₁⟩
    · have hf := next_failure hn
      simp [turnsLeft, hf]
    · rw [hn] at h₁
      cases h₁
    · have hlt := next_shorter hn
      unfold turnsLeft
      split
      · exact Nat.succ_pos _
      · exact Nat.succ_lt_succ hlt

theorem iterateWithin_enough (m : Nat) : ∀ (n : Nat) (s : Session σ), s.turnsLeft < m → s.turnsLeft < n →
    s.iterateWithin m = s.iterateWithin n := by
  induction m with
  | zero => intro n s hm; omega
  | succ m ih =>
    intro n s hm hn
    obtain ⟨n, rfl⟩ := Nat.exists_eq_succ_of_ne_zero (Nat.ne_of_gt (Nat.zero_lt_of_lt hn))
    simp only [iterateWithin]
    rcases hs : s.iterate with ⟨_ | r, s₁⟩
    · rfl
    · have hlt := turnsLeft_lt hs
      simp only
      rw [ih n s₁ (by omega) (by omega)]

theorem turnsLeft_le (s : Session σ) : s.turnsLeft ≤ s.scanner.rest.length + 1 := by
  unfold turnsLeft
  split <;> omega

/-- **An iteration without fuel.** -/
theorem iterateAll_eq (s : Session σ) :
    s.iterateAll = match s.iterate with
      | (none, s₁) => ([], s₁)
      | (some r, s₁) => (r :: s₁.iterateAll.1, s₁.iterateAll.2) := by
  have hle := turnsLeft_le s
  rw [iterateAll, iterateWithin]
  rcases hs : s.iterate with ⟨_ | r, s₁⟩
  · rfl
  · have hlt := turnsLeft_lt hs
    have hle₁ := turnsLeft_le s₁
    simp only
    rw [iterateWithin_enough _ (s₁.scanner.rest.length + 2) s₁ (by omega) (by omega)]
    rfl

theorem iterateAll_of_stopped {s : Session σ} (h : (s.paused || s.failure.isSome) = true) : s.iterateAll = ([], s) := by
  rw [iterateAll_eq, iterate_of_stopped h]

/-- An iteration by calls of `next`. -/
theorem iterateAll_of_running {s : Session σ} (h : (s.paused || s.failure.isSome) = false) :
    s.iterateAll = match s.next with
      | (.error e, s₁) => ([.error e], s₁)
      | (.ok none, s₁) => ([], s₁)
      | (.ok (some tok), s₁) => (.ok tok :: s₁.iterateAll.1, s₁.iterateAll.2) := by
  rw [iterateAll_eq, iterate_of_running h]
  rcases hn : s.next with ⟨e | _ | tok, s₁⟩
  · have hf := next_failure hn
    simp only [turned]
    rw [iterateAll_of_stopped (by rw [hf, Option.isSome_some, Bool.or_true])]
  · rfl
  · rfl

/-- **What a pause comes after**: a call of `next` that gets ahead. -/
theorem iterateAll_shorter (s : Session σ) (hp : s.paused = false) (h : s.iterateAll.2.paused = true) :
    s.iterateAll.2.scanner.rest.length < s.scanner.rest.length := by
  cases hf : s.failure with
  | some e =>
    rw [iterateAll_of_stopped (by rw [hf, Option.isSome_some, Bool.or_true]), hp] at h
    cases h
  | none =>
    have hi := iterateAll_of_running (s := s) (by rw [hp, hf]; rfl)
    rcases next_cases hf with ⟨e, k, hn⟩ | ⟨k, hn⟩ | ⟨tok, k, hn⟩
    · rw [hi, hn] at h
      exact absurd (hp.symm.trans h) Bool.false_ne_true
    · rw [hi, hn] at h
      exact absurd (hp.symm.trans h) Bool.false_ne_true
    · have hlt := next_shorter hn
      rw [hi, hn] at h ⊢
      generalize notify { s with scanner := k } tok = s₁ at hlt h ⊢
      simp only at h ⊢
      cases hp₁ : s₁.paused with
      | true =>
        rw [iterateAll_of_stopped (by rw [hp₁, Bool.true_or])]
        exact hlt
      | false => exact Nat.lt_trans (iterateAll_shorter s₁ hp₁ h) hlt
termination_by s.scanner.rest.length
decreasing_by simpa using hlt

/-- Iterates, resumes and iterates again for as long as there is a pause. -/
def stretches (s : Session σ) : List (List Turn) × Session σ :=
  if _h : s.iterateAll.2.paused = true then
    (s.iterateAll.1 :: s.iterateAll.2.resume.stretches.1, s.iterateAll.2.resume.stretches.2)
  else ([s.iterateAll.1], s.iterateAll.2)
termination_by (s.scanner.rest.length, s.paused.toNat)
decreasing_by
  all_goals
    cases hp : s.paused with
    | true =>
      rw [iterateAll_of_stopped (by rw [hp, Bool.true_or])]
      exact .right _ (Nat.zero_lt_one)
    | false => exact .left _ _ (iterateAll_shorter s hp _h)

theorem stretches_eq (s : Session σ) :
    s.stretches = if s.iterateAll.2.paused = true then
        (s.iterateAll.1 :: s.iterateAll.2.resume.stretches.1, s.iterateAll.2.resume.stretches.2)
      else ([s.iterateAll.1], s.iterateAll.2) := by
  rw [stretches]
  split <;> rfl

/-- **One turn of the stretches.** -/
theorem stretches_of_running {s : Session σ} (hp : s.paused = false) (hf : s.failure = none) :
    s.stretches = match s.next with
      | (.error e, s₁) => ([[.error e]], s₁)
      | (.ok none, s₁) => ([[]], s₁)
      | (.ok (some tok), s₁) =>
        if s₁.paused = true then ([.ok tok] :: s₁.resume.stretches.1, s₁.resume.stretches.2)
        else (s₁.stretches.1.modifyHead (.ok tok :: ·), s₁.stretches.2) := by
  have hi := iterateAll_of_running (s := s) (by rw [hp, hf]; rfl)
  have hnot : ¬s.paused = true := by rw [hp]; exact Bool.false_ne_true
  rcases next_cases hf with ⟨e, k, hn⟩ | ⟨k, hn⟩ | ⟨tok, k, hn⟩
  · rw [stretches_eq, hi, hn]
    exact if_neg hnot
  · rw [stretches_eq, hi, hn]
    exact if_neg hnot
  · rw [stretches_eq, hi, hn]
    generalize notify { s with scanner := k } tok = s₁
    simp only
    cases hp₁ : s₁.paused with
    | true => rw [iterateAll_of_stopped (by rw [hp₁, Bool.true_or]), if_pos hp₁, if_pos rfl]
    | false =>
      rw [stretches_eq s₁, if_neg Bool.false_ne_true]
      split <;> rfl

theorem notify_of_observer {s : Session σ} {o : Observer σ} (ho : s.observer = some o) (tok : Token) :
    s.notify tok = { s with
      memory := (o s.view tok s.memory).2, paused := s.paused || (o s.view tok s.memory).1 == .pause } := by
  simp only [notify, ho]

/-- **A token that an observer is shown** ends the stretch if the observer asks for a pause.  Otherwise it is the first
of the stretch that goes on behind it. -/
theorem stretches_of_token {s s₂ : Session σ} {o : Observer σ} {tok : Token} {k : Scanner} {r : Signal × σ}
    (ho : s.observer = some o) (hp : s.paused = false) (hf : s.failure = none)
    (hn : s.next = (.ok (some tok), notify { s with scanner := k } tok))
    (hr : o (k.view s.source) tok s.memory = r) (hs₂ : s₂ = { s with scanner := k, memory := r.2, paused := false }) :
    s.stretches = (match r.1 with
      | .pause => ([.ok tok] :: s₂.stretches.1, s₂.stretches.2)
      | .proceed => (s₂.stretches.1.modifyHead (.ok tok :: ·), s₂.stretches.2)) ∧
    s.transcript = ⟨(tok, k) :: s₂.transcript.tokens, s₂.transcript.ending⟩ := by
  have hnotify : notify { s with scanner := k } tok = { s₂ with paused := r.1 == .pause } := by
    have hview : ({ s with scanner := k } : Session σ).view = k.view s.source := rfl
    rw [notify_of_observer (s := { s with scanner := k }) ho, hview, hp, Bool.false_or, hr, hs₂]
  have hpaused : s₂.paused = false := by rw [hs₂]
  constructor
  · rw [stretches_of_running hp hf, hn, hnotify]
    cases hr₁ : r.1 with
    | pause =>
      have hres : ({ s₂ with paused := true } : Session σ).resume = s₂ := by
        rw [resume, ← hpaused]
      exact (if_pos rfl).trans (by rw [← hres]; rfl)
    | proceed =>
      have hsame : ({ s₂ with paused := false } : Session σ) = s₂ := by rw [← hpaused]
      exact (if_neg Bool.false_ne_true).trans (by rw [← hsame]; rfl)
  · rw [transcript_eq, hn]
    simp only [notify_scanner, transcript_notify]
    rw [← transcript_bare, ← transcript_bare s₂, hs₂]
    rfl

/-- **Stretches are the transcript cut at the pauses**, and the observer is shown its tokens once each. -/
theorem stretches_eq_cut {o : Observer σ} (s : Session σ) (ho : s.observer = some o) (hp : s.paused = false)
    (hf : s.failure = none) :
    s.stretches.1 = (cut (s.transcript.marked s.source o s.memory)).map (·.map (·.1)) ∧
      s.stretches.2.memory = (o.answers (s.transcript.sights s.source) s.memory).2 ∧
      s.stretches.2.scanner = s.transcript.ending.2 ∧ s.stretches.2.paused = false := by
  rcases next_cases hf with ⟨e, k, hn⟩ | ⟨k, hn⟩ | ⟨tok, k, hn⟩
  · rw [stretches_of_running hp hf, transcript_eq, hn]
    exact ⟨rfl, rfl, rfl, hp⟩
  · rw [stretches_of_running hp hf, transcript_eq, hn]
    exact ⟨rfl, rfl, rfl, hp⟩
  · have hlt : k.rest.length < s.scanner.rest.length := by simpa using next_shorter hn
    -- the session behind the token, when any pause is over
    obtain ⟨r, hr⟩ : ∃ r, o (k.view s.source) tok s.memory = r := ⟨_, rfl⟩
    obtain ⟨hstretches, htranscript⟩ := stretches_of_token ho hp hf hn hr rfl
    have ih := stretches_eq_cut { s with scanner := k, memory := r.2, paused := false } ho rfl hf
    generalize Session.transcript { s with scanner := k, memory := r.2, paused := false } = w at ih htranscript
    generalize Session.stretches { s with scanner := k, memory := r.2, paused := false } = st at ih hstretches
    obtain ⟨hcut, hmemory, hscanner, hpaused⟩ := ih
    have hmarked : (⟨(tok, k) :: w.tokens, w.ending⟩ : Transcript).marked s.source o s.memory =
        (.ok tok, r.1) :: w.marked s.source o r.2 := by
      rw [← hr]
      rfl
    have hanswers : (o.answers ((⟨(tok, k) :: w.tokens, w.ending⟩ : Transcript).sights s.source) s.memory).2 =
        (o.answers (w.sights s.source) r.2).2 := by
      rw [← hr]
      rfl
    rw [hstretches, htranscript, hmarked, hanswers]
    cases r.1 with
    | pause => exact ⟨congrArg _ hcut, hmemory, hscanner, hpaused⟩
    | proceed =>
      rw [map_cut_proceed]
      exact ⟨congrArg (List.modifyHead _) hcut, hmemory, hscanner, hpaused⟩
termination_by s.scanner.rest.length

/-- **Observers and pauses lose nothing and repeat nothing.**  With an observer, calls for tokens come to the same
transcript as without.  Whatever is asked of the session, observers are shown the tokens that `next` and the iteration
hand out while there is an observer, once each and in turn, each with the view of the session behind it.  Iterating and
resuming for as long as there is a pause makes the turns of that transcript and no others: its tokens, which the observer
is shown once each, and its error, if it ends with one.  A stretch ends behind the first token for which the observer
asks for a pause, and the last stretch has none. -/
theorem pauses_lose_nothing (t : Table) (source : Text) (name : String) (options : Options) (memory : σ)
    (o : Observer σ) :
    let quiet := Session.new t source name options memory
    let s := quiet.setObserver o
    let w := quiet.transcript
    s.transcript = w ∧
    (∀ cs : List (Call σ), s.watch cs = s.shown cs) ∧
    s.stretches.1.flatten = w.turns ∧
    s.stretches.2.memory = (o.answers (w.sights source) memory).2 ∧ s.stretches.2.scanner = w.ending.2 ∧
    ∃ pieces : List (List (Turn × Signal)), s.stretches.1 = pieces.map (·.map (·.1)) ∧
      pieces.flatten = w.marked source o memory ∧
      (∀ p ∈ pieces.dropLast, ∃ before a, p = before ++ [(a, .pause)] ∧ ∀ e ∈ before, e.2 = .proceed) ∧
      ∀ p, pieces.getLast? = some p → ∀ e ∈ p, e.2 = .proceed := by
  intro quiet s w
  have htranscript : s.transcript = w := by
    have hbare : s.bare = quiet.bare := rfl
    rw [← transcript_bare, hbare, transcript_bare]
  obtain ⟨hcut, hmemory, hscanner, -⟩ := stretches_eq_cut s rfl rfl rfl
  rw [htranscript] at hcut hmemory hscanner
  refine ⟨htranscript, s.watch_eq_shown, ?_, hmemory, hscanner, _, hcut, cut_flatten _, mem_dropLast_cut _,
    getLast?_cut _⟩
  rw [hcut, ← List.map_flatten, cut_flatten]
  exact w.marked_turns source o memory

end Session
end ModalLexer
