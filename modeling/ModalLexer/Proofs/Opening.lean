import ModalLexer.Rule
/-!
# Opening — what a match begins with

The first step of a match can be computed without the text, as long as no test looks ahead (`Regex.looksBehind`): the
steps at a place depend on what follows it through such tests alone (`Regex.steps_congr`).  So a computation decides
that every match begins with a given character (`Regex.opens`) or that none does (`Regex.blocks`), and for patterns,
whether they can begin with a slash, and with what behind it.
-/
namespace ModalLexer

/-- The test asks only for what lies to the left. -/
def Look.isBehind : Look → Bool
  | textStart => true
  | lineStart false => true
  | _ => false

theorem Look.holds_congr {l : Look} (h : l.isBehind = true) (b x y : Option Char) :
    l.holds ⟨b, x⟩ = l.holds ⟨b, y⟩ := by
  unfold isBehind at h
  split at h
  · rfl
  · rfl
  · cases h

namespace Regex

def looksBehind : Regex → Bool
  | empty => true
  | look l => l.isBehind
  | set _ => true
  | seq a b => a.looksBehind && b.looksBehind
  | alt a b => a.looksBehind && b.looksBehind
  | star _ a => a.looksBehind
  | plus _ a => a.looksBehind
  | again _ a => a.looksBehind
  | times _ a => a.looksBehind
  | atMost _ _ a => a.looksBehind

/-- **A walk does not see what follows**, if no test looks ahead. -/
theorem visit_congr (b x y : Option Char) :
    ∀ a : Regex, a.looksBehind = true → visit ⟨b, x⟩ a = visit ⟨b, y⟩ a
  | empty, _ => rfl
  | look l, h => by
    funext after leave
    rw [visit, visit, Look.holds_congr h b x y]
  | set _, _ => rfl
  | seq p q, h => by
    rw [looksBehind, Bool.and_eq_true] at h
    funext after leave
    rw [visit, visit, visit_congr b x y p h.1, visit_congr b x y q h.2]
  | alt p q, h => by
    rw [looksBehind, Bool.and_eq_true] at h
    funext after leave
    rw [visit, visit, visit_congr b x y p h.1, visit_congr b x y q h.2]
  | star _ p, h => by
    funext after leave
    rw [visit, visit, visit_congr b x y p h]
  | plus _ p, h => by
    funext after leave
    rw [visit, visit, visit_congr b x y p h]
  | again _ p, h => by
    funext after leave
    rw [visit, visit, visit_congr b x y p h]
  | times _ p, h => by
    funext after leave
    rw [visit, visit, visit_congr b x y p h]
  | atMost _ _ p, h => by
    funext after leave
    rw [visit, visit, visit_congr b x y p h]

theorem visitRest_congr (b x y : Option Char) :
    ∀ r : Rest, (∀ a ∈ r, a.looksBehind = true) → visitRest ⟨b, x⟩ r = visitRest ⟨b, y⟩ r
  | [], _ => rfl
  | a :: r, h => by
    rw [visitRest, visitRest, visit_congr b x y a (h a List.mem_cons_self),
      visitRest_congr b x y r fun c hc => h c (List.mem_cons_of_mem _ hc)]

/-- **The steps at a place do not depend on what follows it**, if no test looks ahead. -/
theorem steps_congr (b x y : Option Char) {rs : List Rest} (h : ∀ r ∈ rs, ∀ a ∈ r, a.looksBehind = true) :
    steps ⟨b, x⟩ rs = steps ⟨b, y⟩ rs := by
  have fold (w : Walk) :
      rs.foldl (fun w r => visitRest ⟨b, x⟩ r w) w = rs.foldl (fun w r => visitRest ⟨b, y⟩ r w) w := by
    induction rs generalizing w with
    | nil => rfl
    | cons r rs ih =>
      rw [List.foldl_cons, List.foldl_cons, visitRest_congr b x y r (h r List.mem_cons_self)]
      exact ih (fun s hs => h s (List.mem_cons_of_mem _ hs)) _
  rw [steps, steps, fold]

def Step.reads (c : Char) : Step → Bool
  | .done => false
  | .read s _ => s == .single c

/-- What remains of matches that begin with `c`, where no test looks ahead. -/
def behind (b : Option Char) (rs : List Rest) (c : Char) : List Rest := next c (steps ⟨b, none⟩ rs)

/-- Every match begins with `c`. -/
def opens (b : Option Char) (rs : List Rest) (c : Char) : Bool :=
  rs.all (·.all looksBehind) && (steps ⟨b, none⟩ rs).all (Step.reads c)

/-- No match begins with `c`, and none is empty. -/
def blocks (b : Option Char) (rs : List Rest) (c : Char) : Bool :=
  let ps := steps ⟨b, some c⟩ rs
  !ps.contains .done && (next c ps).isEmpty

variable {b : Option Char} {rs : List Rest} {c d : Char} {t : Text} {n : Nat}

theorem next_of_reads : ∀ {ps : List Step}, (∀ p ∈ ps, p.reads c = true) → d ≠ c → next d ps = []
  | [], _, _ => rfl
  | p :: ps, h, hd => by
    have hp := h p List.mem_cons_self
    have ih := next_of_reads (fun q hq => h q (List.mem_cons_of_mem _ hq)) hd
    cases p with
    | done => cases hp
    | read s r =>
      have hs : s = .single c := by simpa [Step.reads] using hp
      rw [next, hs, CharClass.contains_single, decide_eq_false (Ne.symm hd), ih]
      rfl

theorem run_of_blocks (h : blocks b rs c = true) (cs : Text) : run rs b (c :: cs) = none := by
  simp only [blocks, Bool.and_eq_true, Bool.not_eq_true', List.isEmpty_iff] at h
  rw [run]
  simp only [List.head?_cons, h.1, h.2, Bool.false_eq_true, if_false]

/-- **Every match begins so**, and goes on with what remains. -/
theorem run_of_opens (h : opens b rs c = true) (hr : run rs b t = some n) :
    ∃ cs m, t = c :: cs ∧ n = m + 1 ∧ run (behind b rs c) (some c) cs = some m := by
  simp only [opens, Bool.and_eq_true, List.all_eq_true] at h
  obtain ⟨hb, hreads⟩ := h
  have hs := steps_congr b t.head? none hb
  have hdone : (steps ⟨b, none⟩ rs).contains .done = false := by
    rw [List.contains_eq_mem, decide_eq_false_iff_not]
    intro hm
    exact Bool.false_ne_true (hreads _ hm)
  cases t with
  | nil =>
    rw [run, hs, hdone] at hr
    cases hr
  | cons d cs =>
    rw [run, hs, hdone] at hr
    by_cases hd : d = c
    · subst hd
      cases hn : next d (steps ⟨b, none⟩ rs) with
      | nil => rw [hn] at hr; cases hr
      | cons r rs' =>
        rw [hn] at hr
        simp only [Bool.false_eq_true, if_false, Option.or_none, Option.map_eq_some_iff] at hr
        obtain ⟨m, hm, rfl⟩ := hr
        exact ⟨cs, m, rfl, rfl, by rw [behind, hn]; exact hm⟩
    · rw [next_of_reads hreads hd] at hr
      cases hr

end Regex

namespace Pattern

def avoidsSlash : Pattern → Bool
  | literal t => t.head? != some '/'
  | regex _ r => Regex.blocks none [[r]] '/'
  | scan _ => false

/-- Every match begins as a comment does. -/
def opensComment : Pattern → Bool
  | literal t => ['/', '/'].isPrefixOf t || ['/', '*'].isPrefixOf t
  | regex _ r => Regex.opens none [[r]] '/' && Regex.opens (some '/') (Regex.behind none [[r]] '/') '/'
  | scan _ => false

/-- Every match begins with a slash and goes on as no comment does. -/
def opensRegexp : Pattern → Bool
  | regex _ r =>
    Regex.opens none [[r]] '/' && ['/', '*'].all (Regex.blocks (some '/') (Regex.behind none [[r]] '/'))
  | _ => false

variable {p : Pattern} {t : Text} {n : Nat}

theorem literal_eq_some {l : Text} (h : (literal l).matchLength? t = some n) : l ≠ [] ∧ l <+: t ∧ n = l.length := by
  rw [matchLength?] at h
  split at h
  · rename_i hl
    rw [Bool.and_eq_true, List.isPrefixOf_iff_prefix] at hl
    cases h
    exact ⟨by simpa using hl.1, hl.2, rfl⟩
  · cases h

theorem regex_eq_some {w : Text} {r : Regex} (h : (regex w r).matchLength? t = some n) :
    Regex.run [[r]] none t = some n ∧ 0 < n := by
  rw [matchLength?, Option.filter_eq_some_iff] at h
  exact ⟨h.1, of_decide_eq_true h.2⟩

theorem avoidsSlash_sound (hp : p.avoidsSlash = true) (h : p.matchLength? t = some n) : t.head? ≠ some '/' := by
  cases p with
  | literal l =>
    obtain ⟨hne, ⟨u, rfl⟩, -⟩ := literal_eq_some h
    obtain ⟨c, cs, rfl⟩ := List.exists_cons_of_ne_nil hne
    simpa [avoidsSlash] using hp
  | regex w r =>
    obtain ⟨hr, -⟩ := regex_eq_some h
    intro ht
    obtain ⟨cs, rfl⟩ := List.head?_eq_some_iff.1 ht
    rw [Regex.run_of_blocks hp] at hr
    cases hr
  | scan f => cases hp

theorem opensComment_sound (hp : p.opensComment = true) (h : p.matchLength? t = some n) :
    2 ≤ n ∧ ∃ d u, t = '/' :: d :: u ∧ (d = '/' ∨ d = '*') := by
  cases p with
  | literal l =>
    obtain ⟨-, ⟨u, rfl⟩, rfl⟩ := literal_eq_some h
    simp only [opensComment, Bool.or_eq_true, List.isPrefixOf_iff_prefix] at hp
    rcases hp with ⟨v, rfl⟩ | ⟨v, rfl⟩
    · exact ⟨by simp, '/', v ++ u, rfl, .inl rfl⟩
    · exact ⟨by simp, '*', v ++ u, rfl, .inr rfl⟩
  | regex w r =>
    obtain ⟨hr, -⟩ := regex_eq_some h
    rw [opensComment, Bool.and_eq_true] at hp
    obtain ⟨cs, m, rfl, rfl, hbehind⟩ := Regex.run_of_opens hp.1 hr
    obtain ⟨ds, k, rfl, rfl, -⟩ := Regex.run_of_opens hp.2 hbehind
    exact ⟨by omega, '/', ds, rfl, .inl rfl⟩
  | scan f => cases hp

theorem opensRegexp_sound (hp : p.opensRegexp = true) (h : p.matchLength? t = some n) :
    ∃ u, t = '/' :: u ∧ ∀ d v, u = d :: v → d ≠ '/' ∧ d ≠ '*' := by
  cases p with
  | regex w r =>
    obtain ⟨hr, -⟩ := regex_eq_some h
    simp only [opensRegexp, Bool.and_eq_true, List.all_eq_true] at hp
    obtain ⟨cs, m, rfl, rfl, hbehind⟩ := Regex.run_of_opens hp.1 hr
    refine ⟨cs, rfl, ?_⟩
    rintro d v rfl
    have blocked (c : Char) (hc : c ∈ ['/', '*']) : d ≠ c := by
      rintro rfl
      rw [Regex.run_of_blocks (hp.2 d hc)] at hbehind
      cases hbehind
    exact ⟨blocked '/' (by simp), blocked '*' (by simp)⟩
  | literal l => cases hp
  | scan f => cases hp

end Pattern
end ModalLexer
