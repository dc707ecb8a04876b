import Mathlib.Algebra.Order.BigOperators.Group.List
import Mathlib.Algebra.Order.Group.Nat
import ModalLexer.Proofs.Matching
/-!
# Backtracking — the match that is found is the most preferred one

A rest that has a choice to make stands for others, most preferred first (`branches`), and the match it should find is
that of the first of them which has one.  The matcher reads the text once instead and enters no place twice.  That makes
no difference (`run_branches`), provided that no repetition has empty rounds (`isProper`).  For then a rest weighs more
than its branches do (`weight_branches`), so while a walk is busy at a place it comes upon lighter ones only, never on
the same place again; and a place it has been busy with before had its say already, and can add nothing
(`visitRest_adds`).

So the matches of an expression have their ends in an order of their own, whatever follows, and the first of them from
which it goes on decides (`exists_ends`).  Where all ends agree on what comes of them it is not asked which (`leaves_of_ends`).
-/
namespace ModalLexer
namespace Regex

open Walk

/-- No repetition has a round that reads nothing. -/
def isProper : Regex → Bool
  | empty => true
  | look _ => true
  | set _ => true
  | seq a b => a.isProper && b.isProper
  | alt a b => a.isProper && b.isProper
  | star _ a => !a.isNullable && a.isProper
  | plus _ a => !a.isNullable && a.isProper
  | again _ a => !a.isNullable && a.isProper
  | times _ a => a.isProper
  | atMost _ _ a => a.isProper

/-- Both ways, `more` first if `greedy`. -/
def prefer {α : Type} (greedy : Bool) (more stop : α) : List α := if greedy then [more, stop] else [stop, more]

/-- **What a rest that makes a choice stands for**, most preferred first. -/
def branches (x : Context) : Rest → List Rest
  | [] => []
  | set _ :: _ => []
  | empty :: r => [r]
  | look l :: r => if l.holds x then [r] else []
  | seq a b :: r => [a :: b :: r]
  | alt a b :: r => [a :: r, b :: r]
  | star g a :: r => prefer g (a :: star g a :: r) r
  | plus g a :: r => [a :: again g a :: r]
  | again g a :: r => prefer g (plus g a :: r) r
  | times 0 _ :: r => [r]
  | times (n + 1) a :: r => [a :: times n a :: r]
  | atMost _ 0 _ :: r => [r]
  | atMost g (n + 1) a :: r => prefer g (a :: atMost g n a :: r) r

/-- A rest that makes no choice: it is done, or reads a character. -/
def isLeaf : Rest → Bool
  | [] => true
  | set _ :: _ => true
  | _ => false

def cost : Regex → Nat
  | empty => 1
  | look _ => 1
  | set _ => 1
  | seq a b => a.cost + b.cost + 1
  | alt a b => a.cost + b.cost + 1
  | star _ a => a.cost + 1
  | plus _ a => a.cost + 1
  | again _ a => a.cost + 2
  | times n a => n * (a.cost + 1) + 1
  | atMost _ n a => n * (a.cost + 1) + 1

/-- How much of a rest a walk may go through that reads nothing. -/
def weight : Rest → Nat
  | [] => 0
  | a :: r => a.cost + bif a.isNullable then weight r else 0

def Proper (r : Rest) : Prop := ∀ a ∈ r, a.isProper = true

instance (r : Rest) : Decidable (Proper r) := inferInstanceAs (Decidable (∀ a ∈ r, a.isProper = true))

section

variable {x : Context} {a b : Regex} {r c : Rest} {g : Bool} {n : Nat} {s : CharClass}

theorem mem_prefer {α : Type} {more stop d : α} : d ∈ prefer g more stop ↔ d = more ∨ d = stop := by
  cases g <;> simp [prefer, or_comm]

theorem proper_cons : Proper (a :: r) ↔ a.isProper = true ∧ Proper r := List.forall_mem_cons

theorem branches_proper (hr : Proper r) (hc : c ∈ branches x r) : Proper c := by
  cases r with
  | nil => cases hc
  | cons a r =>
    obtain ⟨ha, hafter⟩ := proper_cons.1 hr
    cases a with
    | set s => cases hc
    | empty => exact List.mem_singleton.1 hc ▸ hafter
    | look l =>
      rw [branches] at hc
      split at hc
      · exact List.mem_singleton.1 hc ▸ hafter
      · cases hc
    | seq a b =>
      rw [isProper, Bool.and_eq_true] at ha
      exact List.mem_singleton.1 hc ▸ proper_cons.2 ⟨ha.1, proper_cons.2 ⟨ha.2, hafter⟩⟩
    | alt a b =>
      rw [isProper, Bool.and_eq_true] at ha
      simp only [branches, List.mem_cons, List.not_mem_nil, or_false] at hc
      rcases hc with rfl | rfl
      · exact proper_cons.2 ⟨ha.1, hafter⟩
      · exact proper_cons.2 ⟨ha.2, hafter⟩
    | star g a =>
      rw [isProper, Bool.and_eq_true] at ha
      rcases mem_prefer.1 hc with rfl | rfl
      · exact proper_cons.2 ⟨ha.2, hr⟩
      · exact hafter
    | plus g a =>
      have hagain : (again g a).isProper = true := ha
      rw [isProper, Bool.and_eq_true] at ha
      exact List.mem_singleton.1 hc ▸ proper_cons.2 ⟨ha.2, proper_cons.2 ⟨hagain, hafter⟩⟩
    | again g a =>
      have hplus : (plus g a).isProper = true := ha
      rcases mem_prefer.1 hc with rfl | rfl
      · exact proper_cons.2 ⟨hplus, hafter⟩
      · exact hafter
    | times n a =>
      cases n with
      | zero => exact List.mem_singleton.1 hc ▸ hafter
      | succ n =>
        have htimes : (times n a).isProper = true := ha
        exact List.mem_singleton.1 hc ▸ proper_cons.2 ⟨ha, proper_cons.2 ⟨htimes, hafter⟩⟩
    | atMost g n a =>
      cases n with
      | zero => exact List.mem_singleton.1 hc ▸ hafter
      | succ n =>
        have hatMost : (atMost g n a).isProper = true := ha
        rcases mem_prefer.1 hc with rfl | rfl
        · exact proper_cons.2 ⟨ha, proper_cons.2 ⟨hatMost, hafter⟩⟩
        · exact hafter

theorem cost_pos (a : Regex) : 0 < a.cost := by cases a <;> simp [cost]

/-- **Branches are lighter.** -/
theorem weight_branches (hr : Proper r) (hc : c ∈ branches x r) : weight c < weight r := by
  cases r with
  | nil => cases hc
  | cons a r =>
    obtain ⟨ha, -⟩ := proper_cons.1 hr
    have stops (a : Regex) (hn : a.isNullable = true) : weight r < weight (a :: r) := by
      have hpos := cost_pos a
      rw [weight, hn, cond_true]
      omega
    cases a with
    | set s => cases hc
    | empty => exact List.mem_singleton.1 hc ▸ stops _ rfl
    | look l =>
      rw [branches] at hc
      split at hc
      · exact List.mem_singleton.1 hc ▸ stops _ rfl
      · cases hc
    | seq a b =>
      rw [List.mem_singleton.1 hc]
      simp only [weight, cost, isNullable]
      cases a.isNullable <;> cases b.isNullable <;> simp only [cond_true, cond_false, Bool.and_self, Bool.and_true,
        Bool.and_false] <;> omega
    | alt a b =>
      simp only [branches, List.mem_cons, List.not_mem_nil, or_false] at hc
      rcases hc with rfl | rfl <;> simp only [weight, cost, isNullable] <;> cases a.isNullable <;>
        cases b.isNullable <;> simp <;> omega
    | star g a =>
      simp only [isProper, Bool.and_eq_true, Bool.not_eq_true'] at ha
      rcases mem_prefer.1 hc with rfl | rfl
      · simp only [weight, cost, isNullable, ha.1, cond_false, cond_true]
        omega
      · exact stops _ rfl
    | plus g a =>
      simp only [isProper, Bool.and_eq_true, Bool.not_eq_true'] at ha
      rw [List.mem_singleton.1 hc]
      simp only [weight, cost, isNullable, ha.1, cond_false]
      omega
    | again g a =>
      simp only [isProper, Bool.and_eq_true, Bool.not_eq_true'] at ha
      rcases mem_prefer.1 hc with rfl | rfl
      · simp only [weight, cost, isNullable, ha.1, cond_false, cond_true]
        omega
      · exact stops _ rfl
    | times n a =>
      cases n with
      | zero => exact List.mem_singleton.1 hc ▸ stops _ rfl
      | succ n =>
        rw [List.mem_singleton.1 hc]
        simp only [weight, cost, isNullable, Nat.succ_mul]
        cases a.isNullable <;> simp <;> omega
    | atMost g n a =>
      cases n with
      | zero => exact List.mem_singleton.1 hc ▸ stops _ rfl
      | succ n =>
        rcases mem_prefer.1 hc with rfl | rfl
        · simp only [weight, cost, isNullable, Nat.succ_mul]
          cases a.isNullable <;> simp <;> omega
        · exact stops _ rfl

/-! ## A walk goes through the branches -/

/-- **Where an expression reads something, a walk through it does not come to its end.** -/
theorem visit_leave (leave leave' : Walk → Walk) : ∀ (a : Regex) (after : Rest), a.isNullable = false →
    visit x a after leave = visit x a after leave'
  | set _, _, _ => rfl
  | seq a b, after, h => by
    rw [isNullable, Bool.and_eq_false_iff] at h
    rw [visit, visit]
    by_cases hb : b.isNullable = false
    · rw [visit_leave leave leave' b after hb]
    · exact visit_leave _ _ a (b :: after) (h.resolve_right hb)
  | alt a b, after, h => by
    rw [isNullable, Bool.or_eq_false_iff] at h
    rw [visit, visit, visit_leave leave leave' a after h.1, visit_leave leave leave' b after h.2]
  | plus g a, after, h => by
    rw [visit, visit, visit_leave _ (enter (again g a :: after) leave') a (again g a :: after) h]
  | times (n + 1) a, after, h => by
    have ha : a.isNullable = false := by simpa [isNullable] using h
    exact visit_leave _ _ a (times n a :: after) ha
  | empty, _, h => by cases h
  | look _, _, h => by cases h
  | star _ _, _, h => by cases h
  | again _ _, _, h => by cases h
  | times 0 a, _, h => by simp [isNullable] at h
  | atMost _ _ _, _, h => by cases h

/-- Walks through rests in turn. -/
def visitAll (x : Context) (cs : List Rest) (w : Walk) : Walk := cs.foldl (fun w c => visitRest x c w) w

theorem both_eq (g : Bool) (c d : Rest) : both g (visitRest x c) (visitRest x d) = visitAll x (prefer g c d) := by
  cases g <;> rfl

/-- **A walk through a rest is a walk through its branches**, and most rests are a place that it enters. -/
theorem visitRest_eq (hr : Proper r) (hl : isLeaf r = false) :
    visitRest x r = visitAll x (branches x r) ∨ visitRest x r = enter r (visitAll x (branches x r)) := by
  cases r with
  | nil => cases hl
  | cons a r =>
    obtain ⟨ha, -⟩ := proper_cons.1 hr
    cases a with
    | set s => cases hl
    | empty => exact .inl rfl
    | look l =>
      left
      rw [visitRest, visit, branches]
      split <;> rfl
    | seq a b => exact .inl rfl
    | alt a b => exact .inr rfl
    | star g a =>
      simp only [isProper, Bool.and_eq_true, Bool.not_eq_true'] at ha
      right
      rw [branches, ← both_eq, visitRest, visit, visitRest, visit_leave _ (visitRest x (star g a :: r)) a _ ha.1]
    | plus g a =>
      simp only [isProper, Bool.and_eq_true, Bool.not_eq_true'] at ha
      right
      rw [visitRest, visit, visit_leave _ (visitRest x (again g a :: r)) a _ ha.1]
      rfl
    | again g a =>
      simp only [isProper, Bool.and_eq_true, Bool.not_eq_true'] at ha
      right
      rw [branches, ← both_eq, visitRest, visit, visitRest, visit,
        visit_leave _ (enter (again g a :: r) (visitRest x r)) a _ ha.1]
    | times n a =>
      cases n with
      | zero => exact .inl rfl
      | succ n => exact .inl rfl
    | atMost g n a =>
      cases n with
      | zero => exact .inl rfl
      | succ n =>
        right
        rw [branches, ← both_eq]
        rfl

end

/-! ## What a walk adds -/

section

variable {x : Context} {val : Step → Option Nat} {r place : Rest} {cs : List Rest} {w w' w'' : Walk} {o o' : Option Nat}

/-- What is found first, where `val` says what comes of a step. -/
def Walk.value (val : Step → Option Nat) (w : Walk) : Option Nat := w.steps.findSome? val

/-- What a walk through a rest finds first. -/
def worth (x : Context) (val : Step → Option Nat) (r : Rest) : Option Nat := (visitRest x r .start).value val

/-- A place that the walk need not enter again: if something comes of it, something has been found. -/
def Settled (x : Context) (val : Step → Option Nat) (w : Walk) (place : Rest) : Prop :=
  (worth x val place).isSome = true → (w.value val).isSome = true

/-- **A walk adds `o`** to what has been found, and settles every place that it enters. -/
structure Adds (x : Context) (val : Step → Option Nat) (o : Option Nat) (w w' : Walk) : Prop where
  value : w'.value val = (w.value val).or o
  settled : ∀ place ∈ w'.entered, place ∈ w.entered ∨ Settled x val w' place

theorem Settled.mono (h : Settled x val w place) (hv : w'.value val = (w.value val).or o) : Settled x val w' place := by
  intro hplace
  rw [hv, Option.isSome_or, h hplace, Bool.true_or]

theorem Adds.refl (w : Walk) : Adds x val none w w := ⟨(Option.or_none).symm, fun _ hp => .inl hp⟩

theorem Adds.trans (h : Adds x val o w w') (h' : Adds x val o' w' w'') : Adds x val (o.or o') w w'' := by
  refine ⟨by rw [h'.value, h.value, Option.or_assoc], fun place hp => ?_⟩
  rcases h'.settled place hp with hp | hp
  · exact (h.settled place hp).imp_right fun hset => hset.mono h'.value
  · exact .inr hp

/-- The lighter places that have been entered are settled. -/
def SettledBelow (x : Context) (val : Step → Option Nat) (m : Nat) (w : Walk) : Prop :=
  ∀ place ∈ w.entered, weight place < m → Settled x val w place

theorem SettledBelow.adds {m : Nat} (h : SettledBelow x val m w) (ha : Adds x val o w w') : SettledBelow x val m w' := by
  intro place hp hlt
  rcases ha.settled place hp with hp | hp
  · exact (h place hp hlt).mono ha.value
  · exact hp

theorem visitAll_adds {m : Nat}
    (ih : ∀ c ∈ cs, ∀ w, SettledBelow x val m w → Adds x val (worth x val c) w (visitRest x c w)) :
    ∀ w, SettledBelow x val m w → Adds x val (cs.findSome? (worth x val)) w (visitAll x cs w) := by
  induction cs with
  | nil => exact fun w _ => .refl w
  | cons c cs ihs =>
    intro w hw
    have hc := ih c List.mem_cons_self w hw
    have hcs := ihs (fun d hd => ih d (List.mem_cons_of_mem _ hd)) _ (hw.adds hc)
    have hboth := hc.trans hcs
    rw [List.findSome?_cons]
    cases hworth : worth x val c with
    | none =>
      rw [hworth, Option.none_or] at hboth
      exact hboth
    | some n =>
      rw [hworth, Option.some_or] at hboth
      exact hboth

/-- **Entering a place adds what comes of it**, whether it is entered for the first time or has been before. -/
theorem enter_adds {f : Walk → Walk} (hf : ∀ w, SettledBelow x val (weight r) w → Adds x val o w (f w))
    (hv : visitRest x r = enter r f) :
    worth x val r = o ∧ ∀ w, SettledBelow x val (weight r + 1) w → Adds x val (worth x val r) w (visitRest x r w) := by
  have first (w : Walk) (hw : SettledBelow x val (weight r) w) :
      Adds x val o { w with entered := r :: w.entered } (f { w with entered := r :: w.entered }) := by
    refine hf _ fun place hp hlt => ?_
    rcases List.mem_cons.1 hp with rfl | hp
    · exact absurd hlt (Nat.lt_irrefl _)
    · exact hw place hp hlt
  have hworth : worth x val r = o := by
    have hstart := (first .start fun place hp => (by cases hp)).value
    rw [worth, hv, enter]
    exact hstart
  refine ⟨hworth, fun w hw => ?_⟩
  rw [hv, hworth, enter]
  split
  · rename_i hin
    have hplace := hw r (by simpa using hin) (Nat.lt_succ_self _)
    refine ⟨?_, fun _ hp => .inl hp⟩
    cases hvalue : w.value val with
    | some n => rfl
    | none =>
      cases ho : o with
      | none => rfl
      | some n =>
        have hfound := hplace (by rw [hworth, ho]; rfl)
        rw [hvalue] at hfound
        cases hfound
  · have hadds := first w fun place hp hlt => hw place hp (Nat.lt_succ_of_lt hlt)
    refine ⟨hadds.value, fun place hp => ?_⟩
    rcases hadds.settled place hp with hp | hp
    · rcases List.mem_cons.1 hp with rfl | hp
      · right
        intro hsome
        rw [hadds.value, Option.isSome_or, ← hworth, hsome, Bool.or_true]
      · exact .inl hp
    · exact .inr hp

theorem find_adds (s : Step) (w : Walk) : Adds x val (val s) w (find s w) := by
  refine ⟨?_, fun _ hp => .inl hp⟩
  rw [Walk.value, find, List.findSome?_append, List.findSome?_singleton]
  rfl

/-- **A walk through a rest adds what comes of the rest**, and that is what comes of its branches. -/
theorem visitRest_adds : ∀ (m : Nat) (r : Rest), weight r < m → Proper r →
    (isLeaf r = false → worth x val r = (branches x r).findSome? (worth x val)) ∧
      ∀ w, SettledBelow x val (weight r + 1) w → Adds x val (worth x val r) w (visitRest x r w)
  | m + 1, r, hm, hr => by
    cases hl : isLeaf r with
    | true =>
      refine ⟨fun h => (by cases h), ?_⟩
      unfold isLeaf at hl
      split at hl
      · exact (enter_adds (fun w _ => find_adds .done w) rfl).2
      · rename_i s after
        exact (enter_adds (fun w _ => find_adds (.read s after) w) rfl).2
      · cases hl
    | false =>
      have hall : ∀ w, SettledBelow x val (weight r) w →
          Adds x val ((branches x r).findSome? (worth x val)) w (visitAll x (branches x r) w) := by
        refine visitAll_adds fun c hc w hw => ?_
        have hlt := weight_branches hr hc
        exact (visitRest_adds m c (by omega) (branches_proper hr hc)).2 w fun place hp h => hw place hp (by omega)
      rcases visitRest_eq (x := x) hr hl with hv | hv
      · have hworth : worth x val r = (branches x r).findSome? (worth x val) := by
          have hstart := (hall .start fun place hp => (by cases hp)).value
          rw [worth, hv]
          exact hstart
        refine ⟨fun _ => hworth, fun w hw => ?_⟩
        rw [hworth, hv]
        exact hall w fun place hp h => hw place hp (Nat.lt_succ_of_lt h)
      · obtain ⟨hworth, hadds⟩ := enter_adds hall hv
        exact ⟨fun _ => hworth, hadds⟩

/-- **The steps of several rests find what the first of them finds that finds something.** -/
theorem steps_findSome? {rs : List Rest} (hrs : ∀ r ∈ rs, Proper r) :
    (steps x rs).findSome? val = rs.findSome? (worth x val) := by
  have hadds : Adds x val (rs.findSome? (worth x val)) .start (visitAll x rs .start) :=
    visitAll_adds (m := (rs.map weight).sum + 1) (fun r hr w hw => ?_) .start fun place hp => (by cases hp)
  · exact hadds.value
  · refine (visitRest_adds _ r (Nat.lt_succ_self _) (hrs r hr)).2 w fun place hp hlt => hw place hp ?_
    have hle : weight r ≤ (rs.map weight).sum := List.le_sum_of_mem (List.mem_map_of_mem hr)
    omega

end

/-! ## A run goes through the branches -/

section

variable {x : Context} {a b : Regex} {r : Rest} {rs : List Rest} {s : Step} {t : Text} {c : Char}

theorem findSome?_congr {α β : Type} {f g : α → Option β} {as : List α} (h : ∀ a ∈ as, f a = g a) :
    as.findSome? f = as.findSome? g := by
  rw [← List.head?_filterMap, ← List.head?_filterMap, List.filterMap_congr h]

theorem Offers.proper (h : Offers x r s) (hr : Proper r) : ∀ cs after, s = .read cs after → Proper after := by
  induction h with
  | done => exact fun cs after h => (by cases h)
  | set =>
    rintro cs after ⟨⟩
    exact (proper_cons.1 hr).2
  | look hl _ ih => exact ih (branches_proper hr (x := x) (by rw [branches, if_pos hl]; exact List.mem_cons_self))
  | empty _ ih | seq _ ih | left _ ih | plus _ ih | timesNone _ ih | timesMore _ ih =>
    exact ih (branches_proper hr (x := x) List.mem_cons_self)
  | right _ ih => exact ih (branches_proper hr (x := x) (List.mem_cons_of_mem _ List.mem_cons_self))
  | starStop _ ih | againStop _ ih => exact ih (branches_proper hr (x := x) (mem_prefer.2 (.inr rfl)))
  | starMore _ ih | againMore _ ih | atMostMore _ ih =>
    exact ih (branches_proper hr (x := x) (mem_prefer.2 (.inl rfl)))
  | atMostStop _ ih => exact ih (proper_cons.1 hr).2

theorem next_proper (hrs : ∀ r ∈ rs, Proper r) : ∀ r ∈ next c (steps x rs), Proper r := by
  intro r hr
  obtain ⟨cs, hs, -⟩ := mem_next hr
  obtain ⟨r', hr', ho⟩ := mem_steps.1 hs
  exact ho.proper (hrs r' hr') cs r rfl

/-- What a step reads, and the most preferred match of what it leaves. -/
def Step.length? : Text → Step → Option Nat
  | _, .done => some 0
  | [], .read _ _ => none
  | c :: t, .read cs r => if cs.contains c then (run [r] (some c) t).map (· + 1) else none

theorem findSome?_length?_nil : ∀ ps : List Step,
    ps.findSome? (Step.length? []) = if ps.contains .done then some 0 else none
  | [] => rfl
  | .done :: ps => by rw [List.findSome?_cons]; simp [Step.length?]
  | .read cs r :: ps => by
    rw [List.findSome?_cons, Step.length?]
    simp only [findSome?_length?_nil ps]
    simp

theorem findSome?_length?_cons (c : Char) (t : Text) : ∀ ps : List Step,
    ps.findSome? (Step.length? (c :: t)) = (((next c ps).findSome? fun r => run [r] (some c) t).map (· + 1)).or
      (if ps.contains .done then some 0 else none)
  | [] => rfl
  | .done :: ps => by rw [List.findSome?_cons]; simp [Step.length?, next]
  | .read cs r :: ps => by
    have hdone : (Step.read cs r :: ps).contains .done = ps.contains .done := by simp
    rw [hdone, List.findSome?_cons, Step.length?, next]
    by_cases hc : cs.contains c = true
    · rw [if_pos hc, if_pos hc, List.findSome?_cons]
      cases run [r] (some c) t with
      | none => exact findSome?_length?_cons c t ps
      | some n => rfl
    · rw [if_neg hc, if_neg hc]
      exact findSome?_length?_cons c t ps

/-- **A run takes the first of the steps by which there is a match.** -/
theorem run_eq_steps : ∀ (t : Text) (rs : List Rest) (b : Option Char), (∀ r ∈ rs, Proper r) →
    run rs b t = (steps ⟨b, t.head?⟩ rs).findSome? (Step.length? t)
  | [], rs, b, _ => by rw [run, findSome?_length?_nil]
  | c :: t, rs, b, hrs => by
    -- behind `c` a run of several rests is the first of their runs, by recursion
    have hafter (rs' : List Rest) (hrs' : ∀ r ∈ rs', Proper r) :
        run rs' (some c) t = rs'.findSome? fun r => run [r] (some c) t := by
      rw [run_eq_steps t rs' _ hrs', steps_findSome? hrs']
      refine findSome?_congr fun r hr => ?_
      have hr' : ∀ r' ∈ [r], Proper r' := fun r' h => List.mem_singleton.1 h ▸ hrs' r hr
      rw [run_eq_steps t [r] _ hr', steps_findSome? hr', List.findSome?_singleton]
    have hnext := hafter _ (next_proper (x := ⟨b, (c :: t).head?⟩) (c := c) hrs)
    rw [findSome?_length?_cons, run, ← hnext]
    split
    · rename_i hnil
      rw [hnil] at hnext ⊢
      rw [hnext]
      rfl
    · rfl

theorem run_singleton (hr : Proper r) (b : Option Char) (t : Text) :
    run [r] b t = worth ⟨b, t.head?⟩ (Step.length? t) r := by
  have hrs : ∀ r' ∈ [r], Proper r' := fun r' h => List.mem_singleton.1 h ▸ hr
  rw [run_eq_steps t [r] b hrs, steps_findSome? hrs, List.findSome?_singleton]

/-- **A rest that makes a choice** finds what the first of its branches finds that finds something. -/
theorem run_branches (hr : Proper r) (hl : isLeaf r = false) (b : Option Char) (t : Text) :
    run [r] b t = (branches ⟨b, t.head?⟩ r).findSome? fun c => run [c] b t := by
  rw [run_singleton hr, (visitRest_adds _ r (Nat.lt_succ_self _) hr).1 hl]
  exact findSome?_congr fun c hc => (run_singleton (branches_proper hr hc) b t).symm

end

/-! ## The ends of an expression -/

/-- What the most preferred match of a rest leaves of the text. -/
def leaves (r : Rest) (p : Cursor) : Option Text := (run [r] p.before p.rest).map fun n => p.rest.drop n

/-- **The ends of an expression's matches from a position**, most preferred first: whatever follows, the first of them
from which it goes on decides. -/
structure Ends (a : Regex) (p : Cursor) (qs : List Cursor) : Prop where
  mem : ∀ q ∈ qs, Matches a p q
  first : ∀ r, Proper r → leaves (a :: r) p = qs.findSome? (leaves r)

section

variable {a b : Regex} {r : Rest} {p q : Cursor} {qs : List Cursor} {g : Bool} {n : Nat} {o : Option Text}

theorem leaves_branches (hr : Proper r) (hl : isLeaf r = false) :
    leaves r p = (branches p.context r).findSome? (leaves · p) := by
  rw [leaves, run_branches hr hl, List.map_findSome?]
  rfl

theorem leaves_nil (p : Cursor) : leaves [] p = some p.rest := by
  have hproper : Proper [] := fun _ h => (by cases h)
  rw [leaves, run_singleton hproper]
  simp [worth, visitRest, enter, find, Walk.start, Walk.value, Step.length?]

theorem leaves_set (s : CharClass) (hr : Proper r) (b : Option Char) (c : Char) (t : Text) :
    leaves (set s :: r) ⟨b, c :: t⟩ = if s.contains c then leaves r ⟨some c, t⟩ else none := by
  rw [leaves, run_singleton (proper_cons.2 ⟨rfl, hr⟩)]
  have hworth : worth ⟨b, (c :: t).head?⟩ (Step.length? (c :: t)) (set s :: r) =
      if s.contains c then (run [r] (some c) t).map (· + 1) else none := by
    simp [worth, visitRest, visit, enter, find, Walk.start, Walk.value, Step.length?]
  rw [hworth]
  split
  · rw [Option.map_map]
    rfl
  · rfl

theorem leaves_set_nil (s : CharClass) (hr : Proper r) (b : Option Char) : leaves (set s :: r) ⟨b, []⟩ = none := by
  rw [leaves, run_singleton (proper_cons.2 ⟨rfl, hr⟩)]
  simp [worth, visitRest, visit, enter, find, Walk.start, Walk.value, Step.length?]

theorem leaves_char (d : Char) (hr : Proper r) (b : Option Char) (c : Char) (t : Text) :
    leaves (char d :: r) ⟨b, c :: t⟩ = if c = d then leaves r ⟨some c, t⟩ else none := by
  rw [char, leaves_set _ hr, CharClass.contains_single]
  simp [eq_comm]

theorem Ends.here (hm : Matches a p p) (h : ∀ r, Proper r → leaves (a :: r) p = leaves r p) : a.Ends p [p] := by
  refine ⟨fun q hq => List.mem_singleton.1 hq ▸ hm, fun r hr => ?_⟩
  rw [h r hr, List.findSome?_singleton]

theorem exists_flat : ∀ {qs : List Cursor}, (∀ q ∈ qs, ∃ us, b.Ends q us) →
    ∃ us : List Cursor, (∀ u ∈ us, ∃ q ∈ qs, Matches b q u) ∧
      ∀ r, Proper r → qs.findSome? (leaves (b :: r)) = us.findSome? (leaves r)
  | [], _ => ⟨[], fun _ hu => (by cases hu), fun _ _ => rfl⟩
  | q :: qs, h => by
    obtain ⟨us, hus⟩ := h q List.mem_cons_self
    obtain ⟨vs, hvs, hfirst⟩ := exists_flat fun q' hq' => h q' (List.mem_cons_of_mem _ hq')
    refine ⟨us ++ vs, fun u hu => ?_, fun r hr => ?_⟩
    · rcases List.mem_append.1 hu with hu | hu
      · exact ⟨q, List.mem_cons_self, hus.mem u hu⟩
      · obtain ⟨q', hq', hm⟩ := hvs u hu
        exact ⟨q', List.mem_cons_of_mem _ hq', hm⟩
    · rw [List.findSome?_cons, List.findSome?_append, hus.first r hr, hfirst r hr]
      cases us.findSome? (leaves r) <;> rfl

/-- **One expression after another** ends where the second does from the ends of the first. -/
theorem Ends.andThen (ha : a.Ends p qs) (hb : b.isProper = true) (h : ∀ q ∈ qs, ∃ us, b.Ends q us) :
    ∃ us : List Cursor, (∀ u ∈ us, ∃ q, Matches a p q ∧ Matches b q u) ∧
      ∀ r, Proper r → leaves (a :: b :: r) p = us.findSome? (leaves r) := by
  obtain ⟨us, hus, hfirst⟩ := exists_flat h
  refine ⟨us, fun u hu => ?_, fun r hr => ?_⟩
  · obtain ⟨q, hq, hm⟩ := hus u hu
    exact ⟨q, ha.mem q hq, hm⟩
  · rw [ha.first _ (proper_cons.2 ⟨hb, hr⟩), hfirst r hr]

/-- **A choice between going on and stopping here.** -/
theorem Ends.prefer {more : Rest → Rest} (hm : Matches a p p) (hqs : ∀ q ∈ qs, Matches a p q)
    (hmore : ∀ r, Proper r → leaves (more r) p = qs.findSome? (leaves r))
    (hbranches : ∀ r, Proper r → leaves (a :: r) p = (prefer g (more r) r).findSome? (leaves · p)) :
    a.Ends p (if g then qs ++ [p] else p :: qs) := by
  refine ⟨fun q hq => ?_, fun r hr => ?_⟩
  · have hq' : q = p ∨ q ∈ qs := by
      split at hq <;> simp at hq
      · exact hq.symm
      · exact hq
    rcases hq' with rfl | hq'
    · exact hm
    · exact hqs q hq'
  · have hmore := hmore r hr
    rw [hbranches r hr]
    cases g with
    | true =>
      simp only [Regex.prefer, if_true, List.findSome?_append, List.findSome?_cons, List.findSome?_nil, hmore]
      cases qs.findSome? (leaves r) <;> rfl
    | false =>
      simp only [Regex.prefer, Bool.false_eq_true, if_false, List.findSome?_cons, List.findSome?_nil, hmore]
      cases leaves r p <;> cases qs.findSome? (leaves r) <;> rfl

end

/-- **An expression has its ends**, in an order that does not depend on what follows. -/
theorem exists_ends : ∀ (a : Regex) (p : Cursor), a.isProper = true → ∃ qs, a.Ends p qs
  | empty, p, _ => by
    refine ⟨[p], .here (.empty p) fun r hr => ?_⟩
    rw [leaves_branches (proper_cons.2 ⟨rfl, hr⟩) rfl, branches, List.findSome?_singleton]
  | look l, p, _ => by
    have hproper : (look l).isProper = true := rfl
    have hbranches (r : Rest) (hr : Proper r) := leaves_branches (p := p) (proper_cons.2 ⟨hproper, hr⟩) rfl
    by_cases hl : l.holds p.context = true
    · refine ⟨[p], .here (.look hl) fun r hr => ?_⟩
      rw [hbranches r hr, branches, if_pos hl, List.findSome?_singleton]
    · refine ⟨[], fun _ hq => (by cases hq), fun r hr => ?_⟩
      rw [hbranches r hr, branches, if_neg hl]
      rfl
  | set s, ⟨b, []⟩, _ => ⟨[], fun _ hq => (by cases hq), fun r hr => leaves_set_nil s hr b⟩
  | set s, ⟨b, c :: t⟩, _ => by
    by_cases hc : s.contains c = true
    · refine ⟨[⟨some c, t⟩], fun q hq => List.mem_singleton.1 hq ▸ .set hc, fun r hr => ?_⟩
      rw [leaves_set s hr, if_pos hc, List.findSome?_singleton]
    · refine ⟨[], fun _ hq => (by cases hq), fun r hr => ?_⟩
      rw [leaves_set s hr, if_neg hc]
      rfl
  | seq a b, p, h => by
    have h' := Bool.and_eq_true_iff.1 h
    obtain ⟨qs, hqs⟩ := exists_ends a p h'.1
    obtain ⟨us, hus, hfirst⟩ := hqs.andThen h'.2 fun q hq =>
      have := (hqs.mem q hq).suffix.length_le
      exists_ends b q h'.2
    refine ⟨us, fun u hu => ?_, fun r hr => ?_⟩
    · obtain ⟨q, ha, hb⟩ := hus u hu
      exact .seq ha hb
    · rw [leaves_branches (proper_cons.2 ⟨h, hr⟩) rfl, branches, List.findSome?_singleton, hfirst r hr]
  | alt a b, p, h => by
    have h' := Bool.and_eq_true_iff.1 h
    obtain ⟨qs, hqs⟩ := exists_ends a p h'.1
    obtain ⟨us, hus⟩ := exists_ends b p h'.2
    refine ⟨qs ++ us, fun q hq => ?_, fun r hr => ?_⟩
    · rcases List.mem_append.1 hq with hq | hq
      · exact .left (hqs.mem q hq)
      · exact .right (hus.mem q hq)
    · rw [leaves_branches (proper_cons.2 ⟨h, hr⟩) rfl, branches, List.findSome?_append, List.findSome?_cons,
        List.findSome?_singleton, hqs.first r hr, hus.first r hr]
      cases qs.findSome? (leaves r) <;> rfl
  | star g a, p, h => by
    have h' := Bool.and_eq_true_iff.1 h
    have ha : a.isNullable = false := by simpa using h'.1
    obtain ⟨qs, hqs⟩ := exists_ends a p h'.2
    obtain ⟨us, hus, hfirst⟩ := hqs.andThen h fun q hq =>
      have := (hqs.mem q hq).shorter ha
      exists_ends (star g a) q h
    refine ⟨_, .prefer (.starStop p) (fun u hu => ?_) hfirst fun r hr => leaves_branches (proper_cons.2 ⟨h, hr⟩) rfl⟩
    obtain ⟨q, ha, hb⟩ := hus u hu
    exact .starMore ha hb
  | plus g a, p, h => by
    have h' := Bool.and_eq_true_iff.1 h
    have ha : a.isNullable = false := by simpa using h'.1
    obtain ⟨qs, hqs⟩ := exists_ends a p h'.2
    obtain ⟨us, hus, hfirst⟩ := hqs.andThen (b := again g a) h fun q hq =>
      have := (hqs.mem q hq).shorter ha
      exists_ends (again g a) q h
    refine ⟨us, fun u hu => ?_, fun r hr => ?_⟩
    · obtain ⟨q, ha, hb⟩ := hus u hu
      exact .plus ha hb
    · rw [leaves_branches (proper_cons.2 ⟨h, hr⟩) rfl, branches, List.findSome?_singleton, hfirst r hr]
  | again g a, p, h => by
    obtain ⟨qs, hqs⟩ := exists_ends (plus g a) p h
    exact ⟨_, .prefer (.againStop p) (fun q hq => .againMore (hqs.mem q hq)) hqs.first fun r hr =>
      leaves_branches (proper_cons.2 ⟨h, hr⟩) rfl⟩
  | times 0 a, p, h => by
    refine ⟨[p], .here (.timesNone p) fun r hr => ?_⟩
    rw [leaves_branches (proper_cons.2 ⟨h, hr⟩) rfl, branches, List.findSome?_singleton]
  | times (n + 1) a, p, h => by
    obtain ⟨qs, hqs⟩ := exists_ends a p h
    obtain ⟨us, hus, hfirst⟩ := hqs.andThen (b := times n a) h fun q hq =>
      have := (hqs.mem q hq).suffix.length_le
      exists_ends (times n a) q h
    refine ⟨us, fun u hu => ?_, fun r hr => ?_⟩
    · obtain ⟨q, ha, hb⟩ := hus u hu
      exact .timesMore ha hb
    · rw [leaves_branches (proper_cons.2 ⟨h, hr⟩) rfl, branches, List.findSome?_singleton, hfirst r hr]
  | atMost g 0 a, p, h => by
    refine ⟨[p], .here (.atMostStop p) fun r hr => ?_⟩
    rw [leaves_branches (proper_cons.2 ⟨h, hr⟩) rfl, branches, List.findSome?_singleton]
  | atMost g (n + 1) a, p, h => by
    obtain ⟨qs, hqs⟩ := exists_ends a p h
    obtain ⟨us, hus, hfirst⟩ := hqs.andThen (b := atMost g n a) h fun q hq =>
      have := (hqs.mem q hq).suffix.length_le
      exists_ends (atMost g n a) q h
    refine ⟨_, .prefer (.atMostStop p) (fun u hu => ?_) hfirst fun r hr => leaves_branches (proper_cons.2 ⟨h, hr⟩) rfl⟩
    obtain ⟨q, ha, hb⟩ := hus u hu
    exact .atMostMore ha hb
termination_by a p => (p.rest.length, a.cost)
decreasing_by all_goals
  rw [Prod.lex_def]
  simp only [cost, Nat.succ_mul, true_and]
  omega

section

variable {a b : Regex} {r : Rest} {p : Cursor} {o : Option Text} {n : Nat}

/-- **Where all ends agree** on what comes of them, that comes of the expression. -/
theorem leaves_of_ends (ha : a.isProper = true) (hr : Proper r) (hex : ∃ q, Matches a p q)
    (hall : ∀ q, Matches a p q → leaves r q = o) : leaves (a :: r) p = o := by
  obtain ⟨qs, hmem, hfirst⟩ := exists_ends a p ha
  have hall' := findSome?_congr fun q hq => hall q (hmem q hq)
  rw [hfirst r hr, hall']
  cases qs with
  | cons q qs => cases o <;> simp
  | nil =>
    -- without an end nothing would be found, where there is a match
    obtain ⟨q, hq⟩ := hex
    obtain ⟨n, hn⟩ := exists_run p.rest [[a]] p.before (List.mem_singleton_self _) (matchesAll_singleton.2 hq)
    have hnone := hfirst [] fun _ h => (by cases h)
    rw [leaves, hn] at hnone
    cases hnone

theorem leaves_eq_none (ha : a.isProper = true) (hr : Proper r) (hall : ∀ q, Matches a p q → leaves r q = none) :
    leaves (a :: r) p = none := by
  obtain ⟨qs, hmem, hfirst⟩ := exists_ends a p ha
  rw [hfirst r hr, List.findSome?_eq_none_iff]
  exact fun q hq => hall q (hmem q hq)

theorem leaves_look {l : Look} (h : Proper (look l :: r)) (hl : l.holds p.context = true) :
    leaves (look l :: r) p = leaves r p := by
  rw [leaves_branches h rfl, branches, if_pos hl, List.findSome?_singleton]

theorem leaves_seq (h : Proper (seq a b :: r)) : leaves (seq a b :: r) p = leaves (a :: b :: r) p := by
  rw [leaves_branches h rfl, branches, List.findSome?_singleton]

theorem leaves_alt (h : Proper (alt a b :: r)) :
    leaves (alt a b :: r) p = (leaves (a :: r) p).or (leaves (b :: r) p) := by
  rw [leaves_branches h rfl, branches, List.findSome?_cons, List.findSome?_singleton]
  cases leaves (a :: r) p <;> rfl

theorem leaves_star (h : Proper (star true a :: r)) :
    leaves (star true a :: r) p = (leaves (a :: star true a :: r) p).or (leaves r p) := by
  rw [leaves_branches h rfl, branches, prefer, if_pos rfl, List.findSome?_cons, List.findSome?_singleton]
  cases leaves (a :: star true a :: r) p <;> rfl

theorem leaves_star_set (s : CharClass) : ∀ (b : Option Char) (t : Text),
    leaves [star true (set s)] ⟨b, t⟩ = some (t.dropWhile s.contains)
  | b, [] => by
    rw [leaves_star (by simp [Proper, isProper, isNullable]), leaves_set_nil s (by simp [Proper, isProper, isNullable]),
      leaves_nil]
    rfl
  | b, c :: t => by
    have hproper : Proper [star true (set s)] := by simp [Proper, isProper, isNullable]
    rw [leaves_star hproper, leaves_set s hproper, leaves_nil, leaves_star_set s (some c) t, List.dropWhile_cons]
    split <;> rfl

/-- **The length of the most preferred match** told by what it leaves. -/
theorem matchLength?_eq_some_iff {t : Text} :
    a.matchLength? t = some n ↔ n ≤ t.length ∧ leaves [a] ⟨none, t⟩ = some (t.drop n) := by
  constructor
  · intro h
    refine ⟨run_le_length _ _ _ _ h, ?_⟩
    rw [leaves, ← matchLength?, h]
    rfl
  · rintro ⟨hn, h⟩
    obtain ⟨m, hm, hdrop⟩ := Option.map_eq_some_iff.1 h
    have hle : m ≤ t.length := run_le_length _ _ _ _ hm
    have hlen : (t.drop m).length = (t.drop n).length := congrArg List.length hdrop
    rw [List.length_drop, List.length_drop] at hlen
    rw [matchLength?, hm, Option.some.injEq]
    omega

end

end Regex
end ModalLexer
