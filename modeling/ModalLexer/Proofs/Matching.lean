import Mathlib.Logic.Relation
import ModalLexer.Proofs.Opening
/-!
# Matching — the matcher finds the matches there are

What an expression matches is a relation between positions of a text (`Matches`).  The matcher reads the text once and
goes by the steps that rests can make, and both say the same: where some match is possible it finds one, and what it
finds is a match (`matchLength?_sound`, `exists_matchLength?`).

What a rest can do first is found by moves that read nothing (`Offers`).  That `visit` finds no other steps is seen from
its recursion.  That it finds them all takes an invariant, for it turns back at a place that has been entered: whatever
was entered meanwhile is `Expanded` afterwards, and what is still being expanded is known to be entered (`Settles`).
-/
namespace ModalLexer
namespace Regex

/-- A position of a text: the character to the left of it, and what follows. -/
structure Cursor where
  before : Option Char
  rest : Text

def Cursor.context (p : Cursor) : Context := ⟨p.before, p.rest.head?⟩

/-- **What an expression matches**: a piece of the text from one position to another. -/
inductive Matches : Regex → Cursor → Cursor → Prop
  | empty (p : Cursor) : Matches empty p p
  | look {l : Look} {p : Cursor} (h : l.holds p.context = true) : Matches (look l) p p
  | set {s : CharClass} {b : Option Char} {c : Char} {t : Text} (h : s.contains c = true) :
      Matches (set s) ⟨b, c :: t⟩ ⟨some c, t⟩
  | seq {a b : Regex} {p q r : Cursor} (ha : Matches a p q) (hb : Matches b q r) : Matches (seq a b) p r
  | left {a b : Regex} {p q : Cursor} (h : Matches a p q) : Matches (alt a b) p q
  | right {a b : Regex} {p q : Cursor} (h : Matches b p q) : Matches (alt a b) p q
  | starStop {g : Bool} {a : Regex} (p : Cursor) : Matches (star g a) p p
  | starMore {g : Bool} {a : Regex} {p q r : Cursor} (ha : Matches a p q) (h : Matches (star g a) q r) :
      Matches (star g a) p r
  | plus {g : Bool} {a : Regex} {p q r : Cursor} (ha : Matches a p q) (h : Matches (again g a) q r) :
      Matches (plus g a) p r
  | againStop {g : Bool} {a : Regex} (p : Cursor) : Matches (again g a) p p
  | againMore {g : Bool} {a : Regex} {p q : Cursor} (h : Matches (plus g a) p q) : Matches (again g a) p q
  | timesNone {a : Regex} (p : Cursor) : Matches (times 0 a) p p
  | timesMore {n : Nat} {a : Regex} {p q r : Cursor} (ha : Matches a p q) (h : Matches (times n a) q r) :
      Matches (times (n + 1) a) p r
  | atMostStop {g : Bool} {n : Nat} {a : Regex} (p : Cursor) : Matches (atMost g n a) p p
  | atMostMore {g : Bool} {n : Nat} {a : Regex} {p q r : Cursor} (ha : Matches a p q) (h : Matches (atMost g n a) q r) :
      Matches (atMost g (n + 1) a) p r

inductive MatchesAll : Rest → Cursor → Cursor → Prop
  | nil (p : Cursor) : MatchesAll [] p p
  | cons {a : Regex} {after : Rest} {p q r : Cursor} (ha : Matches a p q) (h : MatchesAll after q r) :
      MatchesAll (a :: after) p r

/-- **The steps that a rest can make**, behind moves that read nothing. -/
inductive Offers (x : Context) : Rest → Step → Prop
  | done : Offers x [] .done
  | set {s : CharClass} {r : Rest} : Offers x (set s :: r) (.read s r)
  | empty {r : Rest} {p : Step} (h : Offers x r p) : Offers x (empty :: r) p
  | look {l : Look} {r : Rest} {p : Step} (hl : l.holds x = true) (h : Offers x r p) : Offers x (look l :: r) p
  | seq {a b : Regex} {r : Rest} {p : Step} (h : Offers x (a :: b :: r) p) : Offers x (seq a b :: r) p
  | left {a b : Regex} {r : Rest} {p : Step} (h : Offers x (a :: r) p) : Offers x (alt a b :: r) p
  | right {a b : Regex} {r : Rest} {p : Step} (h : Offers x (b :: r) p) : Offers x (alt a b :: r) p
  | starStop {g : Bool} {a : Regex} {r : Rest} {p : Step} (h : Offers x r p) : Offers x (star g a :: r) p
  | starMore {g : Bool} {a : Regex} {r : Rest} {p : Step} (h : Offers x (a :: star g a :: r) p) :
      Offers x (star g a :: r) p
  | plus {g : Bool} {a : Regex} {r : Rest} {p : Step} (h : Offers x (a :: again g a :: r) p) : Offers x (plus g a :: r) p
  | againStop {g : Bool} {a : Regex} {r : Rest} {p : Step} (h : Offers x r p) : Offers x (again g a :: r) p
  | againMore {g : Bool} {a : Regex} {r : Rest} {p : Step} (h : Offers x (plus g a :: r) p) : Offers x (again g a :: r) p
  | timesNone {a : Regex} {r : Rest} {p : Step} (h : Offers x r p) : Offers x (times 0 a :: r) p
  | timesMore {n : Nat} {a : Regex} {r : Rest} {p : Step} (h : Offers x (a :: times n a :: r) p) :
      Offers x (times (n + 1) a :: r) p
  | atMostStop {g : Bool} {n : Nat} {a : Regex} {r : Rest} {p : Step} (h : Offers x r p) : Offers x (atMost g n a :: r) p
  | atMostMore {g : Bool} {n : Nat} {a : Regex} {r : Rest} {p : Step} (h : Offers x (a :: atMost g n a :: r) p) :
      Offers x (atMost g (n + 1) a :: r) p

open Walk

variable {x : Context} {P Q : Step → Prop} {f g : Walk → Walk} {r place : Rest}

/-! ## A walk finds nothing but what is offered -/

/-- Such a walk finds only steps for which `P` holds. -/
def Finds (P : Step → Prop) (f : Walk → Walk) : Prop := ∀ w, ∀ s ∈ (f w).steps, s ∈ w.steps ∨ P s

theorem finds_id : Finds P id := fun _ _ hs => .inl hs

theorem finds_find {s : Step} (h : P s) : Finds P (find s) := by
  intro w s' hs'
  rcases List.mem_append.1 hs' with hs' | hs'
  · exact .inl hs'
  · rw [List.mem_singleton.1 hs']
    exact .inr h

theorem Finds.mono (h : Finds P f) (hPQ : ∀ s, P s → Q s) : Finds Q f :=
  fun w s hs => (h w s hs).imp_right (hPQ s)

theorem Finds.enter (h : Finds P f) : Finds P (enter place f) := by
  intro w s hs
  unfold Walk.enter at hs
  split at hs
  · exact .inl hs
  · exact h { w with entered := place :: w.entered } s hs

theorem Finds.comp (hf : Finds P f) (hg : Finds P g) : Finds P fun w => g (f w) := by
  intro w s hs
  rcases hg (f w) s hs with hs | hs
  · exact hf w s hs
  · exact .inr hs

theorem Finds.both (hf : Finds P f) (hg : Finds P g) (greedy : Bool) : Finds P (both greedy f g) := by
  cases greedy with
  | true => exact hf.comp hg
  | false => exact hg.comp hf

section

variable {visitRound : Rest → (Walk → Walk) → Walk → Walk} {a : Regex} {after : Rest} {leave : Walk → Walk}

theorem rounds_finds (hv : ∀ after leave, Finds (Offers x after) leave →
      Finds (Offers x (a :: after)) (visitRound after leave)) (hl : Finds (Offers x after) leave) :
    ∀ n, Finds (Offers x (times n a :: after)) (rounds visitRound a after leave n)
  | 0 => hl.mono fun _ h => .timesNone h
  | n + 1 => (hv _ _ (rounds_finds hv hl n)).mono fun _ h => .timesMore h

theorem upTo_finds {greedy : Bool} (hv : ∀ after leave, Finds (Offers x after) leave →
      Finds (Offers x (a :: after)) (visitRound after leave)) (hl : Finds (Offers x after) leave) :
    ∀ n, Finds (Offers x (atMost greedy n a :: after)) (upTo greedy visitRound a after leave n)
  | 0 => hl.mono fun _ h => .atMostStop h
  | n + 1 => by
    have more := (hv _ _ (upTo_finds hv hl n)).mono fun _ h => Offers.atMostMore (g := greedy) h
    have stop := hl.mono fun _ h => Offers.atMostStop (g := greedy) (n := n + 1) (a := a) h
    exact (more.both stop greedy).enter

end

/-- **A walk through an expression finds only steps that are offered.** -/
theorem visit_finds : ∀ (a : Regex) (after : Rest) (leave : Walk → Walk), Finds (Offers x after) leave →
    Finds (Offers x (a :: after)) (visit x a after leave)
  | .empty, _, _, h => h.mono fun _ h => .empty h
  | .look l, after, leave, h => by
    rw [visit]
    by_cases hl : l.holds x = true
    · rw [if_pos hl]
      exact h.mono fun _ h => .look hl h
    · rw [if_neg hl]
      exact finds_id
  | .set _, _, _, _ => (finds_find .set).enter
  | .seq a b, after, leave, h => (visit_finds a _ _ (visit_finds b _ _ h)).mono fun _ h => .seq h
  | .alt a b, after, leave, h =>
    have left := (visit_finds a _ _ h).mono fun _ h => Offers.left h
    have right := (visit_finds b _ _ h).mono fun _ h => Offers.right h
    (left.comp right).enter
  | .star greedy a, after, leave, h =>
    have more := (visit_finds a _ _ finds_id).mono fun _ h => Offers.starMore h
    have stop := h.mono fun _ h => Offers.starStop h
    (more.both stop greedy).enter
  | .plus greedy a, after, leave, h =>
    have stop : Finds (Offers x (.again greedy a :: after)) _ := (h.mono fun _ h => .againStop h).enter
    ((visit_finds a _ _ stop).mono fun _ h => .plus h).enter
  | .again greedy a, after, leave, h =>
    have more := ((visit_finds a (.again greedy a :: after) _ finds_id).mono fun _ h => Offers.againMore (.plus h)).enter
    have stop := h.mono fun _ h => Offers.againStop h
    (more.both stop greedy).enter
  | .times n a, after, leave, h => rounds_finds (visit_finds a) h n
  | .atMost greedy n a, after, leave, h => upTo_finds (visit_finds a) h n

theorem visitRest_finds : ∀ r : Rest, Finds (Offers x r) (visitRest x r)
  | [] => (finds_find .done).enter
  | a :: after => visit_finds a after _ (visitRest_finds after)

/-! ## A walk finds all that is offered -/

structure Extends (w w' : Walk) : Prop where
  entered : w.entered ⊆ w'.entered
  steps : w.steps ⊆ w'.steps

theorem Extends.refl (w : Walk) : Extends w w := ⟨fun _ h => h, fun _ h => h⟩

theorem Extends.trans {w w' w'' : Walk} (h : Extends w w') (h' : Extends w' w'') : Extends w w'' :=
  ⟨fun _ hp => h'.entered (h.entered hp), fun _ hs => h'.steps (h.steps hs)⟩

/-- A walk has entered the place at which it would choose, on its way through a rest. -/
inductive Handled (x : Context) (w : Walk) : Rest → Prop
  | entered {r : Rest} (h : r ∈ w.entered) : Handled x w r
  | empty {r : Rest} (h : Handled x w r) : Handled x w (empty :: r)
  | fails {l : Look} {r : Rest} (hl : l.holds x = false) : Handled x w (look l :: r)
  | holds {l : Look} {r : Rest} (h : Handled x w r) : Handled x w (look l :: r)
  | seq {a b : Regex} {r : Rest} (h : Handled x w (a :: b :: r)) : Handled x w (seq a b :: r)
  | timesNone {a : Regex} {r : Rest} (h : Handled x w r) : Handled x w (times 0 a :: r)
  | timesMore {n : Nat} {a : Regex} {r : Rest} (h : Handled x w (a :: times n a :: r)) : Handled x w (times (n + 1) a :: r)
  | atMostNone {g : Bool} {a : Regex} {r : Rest} (h : Handled x w r) : Handled x w (atMost g 0 a :: r)

/-- A walk has gone every way from a place at which it chooses. -/
def Expanded (x : Context) (w : Walk) : Rest → Prop
  | [] => .done ∈ w.steps
  | .set s :: r => .read s r ∈ w.steps
  | .alt a b :: r => Handled x w (a :: r) ∧ Handled x w (b :: r)
  | .star g a :: r => Handled x w (a :: star g a :: r) ∧ Handled x w r
  | .plus g a :: r => Handled x w (a :: again g a :: r)
  | .again g a :: r => Handled x w (plus g a :: r) ∧ Handled x w r
  | .atMost g (n + 1) a :: r => Handled x w (a :: atMost g n a :: r) ∧ Handled x w r
  | _ => False

theorem Handled.mono {w w' : Walk} (hw : Extends w w') (h : Handled x w r) : Handled x w' r := by
  induction h with
  | entered h => exact .entered (hw.entered h)
  | empty _ ih => exact .empty ih
  | fails hl => exact .fails hl
  | holds _ ih => exact .holds ih
  | seq _ ih => exact .seq ih
  | timesNone _ ih => exact .timesNone ih
  | timesMore _ ih => exact .timesMore ih
  | atMostNone _ ih => exact .atMostNone ih

theorem Expanded.mono {w w' : Walk} (hw : Extends w w') (h : Expanded x w r) : Expanded x w' r := by
  unfold Expanded at h ⊢
  split at h
  · exact hw.steps h
  · exact hw.steps h
  · exact ⟨h.1.mono hw, h.2.mono hw⟩
  · exact ⟨h.1.mono hw, h.2.mono hw⟩
  · exact h.mono hw
  · exact ⟨h.1.mono hw, h.2.mono hw⟩
  · exact ⟨h.1.mono hw, h.2.mono hw⟩
  · exact h.elim

/-- **Where every place entered is expanded, all that is offered has been found.** -/
theorem Offers.mem_steps {w : Walk} {s : Step} (hw : ∀ place ∈ w.entered, Expanded x w place) (h : Offers x r s) :
    Handled x w r → s ∈ w.steps := by
  -- a walk that handled the rest has entered it, and then gone on as the offer does, or is there through a shorter one
  induction h with
  | done =>
    rintro (hr | _)
    exact hw _ hr
  | set =>
    rintro (hr | _)
    exact hw _ hr
  | empty _ ih =>
    intro hr
    cases hr with
    | entered hr => exact (hw _ hr).elim
    | empty hr => exact ih hr
  | look hl _ ih =>
    intro hr
    cases hr with
    | entered hr => exact (hw _ hr).elim
    | fails hl' => rw [hl] at hl'; cases hl'
    | holds hr => exact ih hr
  | seq _ ih =>
    intro hr
    cases hr with
    | entered hr => exact (hw _ hr).elim
    | seq hr => exact ih hr
  | left _ ih =>
    rintro (hr | _)
    exact ih (hw _ hr).1
  | right _ ih =>
    rintro (hr | _)
    exact ih (hw _ hr).2
  | starStop _ ih =>
    rintro (hr | _)
    exact ih (hw _ hr).2
  | starMore _ ih =>
    rintro (hr | _)
    exact ih (hw _ hr).1
  | plus _ ih =>
    rintro (hr | _)
    exact ih (hw _ hr)
  | againStop _ ih =>
    rintro (hr | _)
    exact ih (hw _ hr).2
  | againMore _ ih =>
    rintro (hr | _)
    exact ih (hw _ hr).1
  | timesNone _ ih =>
    intro hr
    cases hr with
    | entered hr => exact (hw _ hr).elim
    | timesNone hr => exact ih hr
  | timesMore _ ih =>
    intro hr
    cases hr with
    | entered hr => exact (hw _ hr).elim
    | timesMore hr => exact ih hr
  | @atMostStop g n a r s _ ih =>
    intro hr
    cases hr with
    | entered hr =>
      cases n with
      | zero => exact (hw _ hr).elim
      | succ n => exact ih (hw _ hr).2
    | atMostNone hr => exact ih hr
  | atMostMore _ ih =>
    rintro (hr | _)
    exact ih (hw _ hr).1

/-- **A walk from where the places `E` have been entered** keeps what there is, leaves `P` behind, and has expanded what
it entered itself. -/
def Settles (x : Context) (E : List Rest) (P : Walk → Prop) (f : Walk → Walk) : Prop :=
  ∀ w, E ⊆ w.entered → Extends w (f w) ∧ P (f w) ∧ ∀ p ∈ (f w).entered, p ∈ w.entered ∨ Expanded x (f w) p

section

variable {E E' : List Rest} {P Q : Walk → Prop}

theorem settles_id (h : place ∈ E) : Settles x E (Handled x · place) id :=
  fun w hw => ⟨.refl w, .entered (hw h), fun _ hp => .inl hp⟩

theorem settles_find (s : Step) : Settles x E (s ∈ ·.steps) (find s) := by
  intro w _
  refine ⟨⟨fun _ h => h, List.subset_append_left _ _⟩, ?_, fun _ hp => .inl hp⟩
  exact List.mem_append_right _ (List.mem_singleton_self s)

theorem Settles.mono (h : Settles x E P f) (hPQ : ∀ w, P w → Q w) : Settles x E Q f := by
  intro w hw
  obtain ⟨hext, hp, hnew⟩ := h w hw
  exact ⟨hext, hPQ _ hp, hnew⟩

theorem Settles.within (h : Settles x E P f) (hE : E ⊆ E') : Settles x E' P f := fun w hw => h w fun _ hp => hw (hE hp)

/-- What has been entered before is entered afterwards. -/
theorem Settles.entered (h : Settles x E P f) (hp : place ∈ E) :
    Settles x E (fun w => Handled x w place ∧ P w) f := by
  intro w hw
  obtain ⟨hext, hP, hnew⟩ := h w hw
  exact ⟨hext, ⟨.entered (hext.entered (hw hp)), hP⟩, hnew⟩

theorem Settles.enter (h : Settles x (place :: E) (Expanded x · place) f) :
    Settles x E (Handled x · place) (enter place f) := by
  intro w hw
  unfold Walk.enter
  by_cases hin : place ∈ w.entered
  · rw [if_pos (by simpa using hin)]
    exact ⟨.refl w, .entered hin, fun _ hp => .inl hp⟩
  · rw [if_neg (by simpa using hin)]
    have hsub : place :: E ⊆ place :: w.entered := List.cons_subset_cons _ hw
    obtain ⟨hext, hexp, hnew⟩ := h { w with entered := place :: w.entered } hsub
    refine ⟨⟨fun _ hp => hext.entered (List.mem_cons_of_mem _ hp), hext.steps⟩, ?_, ?_⟩
    · exact .entered (hext.entered List.mem_cons_self)
    · intro p hp
      rcases hnew p hp with hp | hp
      · rcases List.mem_cons.1 hp with rfl | hp
        · exact .inr hexp
        · exact .inl hp
      · exact .inr hp

/-- One walk after another. -/
theorem Settles.comp (hP : ∀ {w w'}, Extends w w' → P w → P w') (hf : Settles x E P f) (hg : Settles x E Q g) :
    Settles x E (fun w => P w ∧ Q w) fun w => g (f w) := by
  intro w hw
  obtain ⟨hext, hp, hnew⟩ := hf w hw
  obtain ⟨hext', hq, hnew'⟩ := hg (f w) fun _ h => hext.entered (hw h)
  refine ⟨hext.trans hext', ⟨hP hext' hp, hq⟩, ?_⟩
  intro p h
  rcases hnew' p h with h | h
  · exact (hnew p h).imp_right (Expanded.mono hext')
  · exact .inr h

theorem Settles.both {r r' : Rest} (hf : Settles x E (Handled x · r) f) (hg : Settles x E (Handled x · r') g)
    (greedy : Bool) : Settles x E (fun w => Handled x w r ∧ Handled x w r') (both greedy f g) := by
  cases greedy with
  | true =>
    have h := hf.comp Handled.mono hg
    exact h
  | false =>
    have h := hg.comp Handled.mono hf
    exact h.mono fun _ h => ⟨h.2, h.1⟩

variable {visitRound : Rest → (Walk → Walk) → Walk → Walk} {a : Regex} {after : Rest} {leave : Walk → Walk}

theorem rounds_settles (hv : ∀ after leave, Settles x E (Handled x · after) leave →
      Settles x E (Handled x · (a :: after)) (visitRound after leave)) (hl : Settles x E (Handled x · after) leave) :
    ∀ n, Settles x E (Handled x · (times n a :: after)) (rounds visitRound a after leave n)
  | 0 => hl.mono fun _ h => .timesNone h
  | n + 1 => (hv _ _ (rounds_settles hv hl n)).mono fun _ h => .timesMore h

theorem upTo_settles {greedy : Bool} (hv : ∀ E after leave, Settles x E (Handled x · after) leave →
      Settles x E (Handled x · (a :: after)) (visitRound after leave)) :
    ∀ (n : Nat) (E : List Rest), Settles x E (Handled x · after) leave →
      Settles x E (Handled x · (atMost greedy n a :: after)) (upTo greedy visitRound a after leave n)
  | 0, _, hl => hl.mono fun _ h => .atMostNone h
  | n + 1, E, hl => by
    have hl' : Settles x ((atMost greedy (n + 1) a :: after) :: E) _ leave := hl.within (List.subset_cons_self _ _)
    exact ((hv _ _ _ (upTo_settles hv n _ hl')).both hl' greedy).enter

end

/-- **A walk through an expression settles it**, if what follows settles the rest. -/
theorem visit_settles : ∀ (a : Regex) (E : List Rest) (after : Rest) (leave : Walk → Walk),
    Settles x E (Handled x · after) leave → Settles x E (Handled x · (a :: after)) (visit x a after leave)
  | .empty, _, _, _, h => h.mono fun _ h => .empty h
  | .look l, E, after, leave, h => by
    rw [visit]
    by_cases hl : l.holds x = true
    · rw [if_pos hl]
      exact h.mono fun _ h => .holds h
    · rw [if_neg hl]
      exact fun w _ => ⟨.refl w, .fails (Bool.not_eq_true _ ▸ hl), fun _ hp => .inl hp⟩
  | .set s, E, after, _, _ => (settles_find (.read s after)).enter
  | .seq a b, E, after, leave, h => (visit_settles a E _ _ (visit_settles b E _ _ h)).mono fun _ h => .seq h
  | .alt a b, E, after, leave, h => by
    have h' : Settles x ((alt a b :: after) :: E) _ leave := h.within (List.subset_cons_self _ _)
    exact ((visit_settles a _ _ _ h').comp Handled.mono (visit_settles b _ _ _ h')).enter
  | .star greedy a, E, after, leave, h => by
    have h' : Settles x ((star greedy a :: after) :: E) _ leave := h.within (List.subset_cons_self _ _)
    have more := visit_settles a ((star greedy a :: after) :: E) (star greedy a :: after) id
      (settles_id List.mem_cons_self)
    exact (more.both h' greedy).enter
  | .plus greedy a, E, after, leave, h => by
    -- behind the first round another would come to this very place, which is entered
    have h' : Settles x ((again greedy a :: after) :: (plus greedy a :: after) :: E) _ leave :=
      h.within fun _ hp => List.mem_cons_of_mem _ (List.mem_cons_of_mem _ hp)
    have stop : Settles x _ (Expanded x · (again greedy a :: after)) leave :=
      h'.entered (List.mem_cons_of_mem _ List.mem_cons_self)
    exact (visit_settles a _ _ _ stop.enter).enter
  | .again greedy a, E, after, leave, h => by
    have h' : Settles x ((again greedy a :: after) :: E) _ leave := h.within (List.subset_cons_self _ _)
    have round : Settles x _ (Expanded x · (plus greedy a :: after)) _ :=
      visit_settles a ((plus greedy a :: after) :: (again greedy a :: after) :: E) (again greedy a :: after) id
        (settles_id (List.mem_cons_of_mem _ List.mem_cons_self))
    exact (round.enter.both h' greedy).enter
  | .times n a, E, after, leave, h => rounds_settles (visit_settles a E) h n
  | .atMost greedy n a, E, after, leave, h => upTo_settles (visit_settles a) n E h

theorem visitRest_settles : ∀ r : Rest, Settles x [] (Handled x · r) (visitRest x r)
  | [] => (settles_find .done).enter
  | a :: after => visit_settles a [] after _ (visitRest_settles after)

theorem foldl_settles : ∀ rs : List Rest, Settles x [] (fun w => ∀ r ∈ rs, Handled x w r)
    (rs.foldl fun w r => visitRest x r w)
  | [] => fun w _ => ⟨.refl w, fun _ hr => (by cases hr), fun _ hp => .inl hp⟩
  | r :: rs => by
    refine ((visitRest_settles r).comp Handled.mono (foldl_settles rs)).mono ?_
    rintro w ⟨h, hs⟩ r' hr'
    rcases List.mem_cons.1 hr' with rfl | hr'
    · exact h
    · exact hs r' hr'

theorem foldl_finds : ∀ rs : List Rest, Finds (fun s => ∃ r ∈ rs, Offers x r s) fun w =>
    rs.foldl (fun w r => visitRest x r w) w
  | [] => finds_id
  | r :: rs => by
    have first := (visitRest_finds r).mono fun s (h : Offers x r s) =>
      (⟨r, List.mem_cons_self, h⟩ : ∃ r' ∈ r :: rs, Offers x r' s)
    have others := (foldl_finds rs).mono fun s (h : ∃ r' ∈ rs, Offers x r' s) =>
      (h.imp fun _ h => ⟨List.mem_cons_of_mem _ h.1, h.2⟩ : ∃ r' ∈ r :: rs, Offers x r' s)
    exact first.comp others

/-- **The steps at a position are those that are offered there.** -/
theorem mem_steps {rs : List Rest} {s : Step} : s ∈ steps x rs ↔ ∃ r ∈ rs, Offers x r s := by
  constructor
  · intro h
    rcases foldl_finds rs .start s h with h | h
    · cases h
    · exact h
  · rintro ⟨r, hr, h⟩
    obtain ⟨-, hall, hnew⟩ := foldl_settles (x := x) rs .start (List.nil_subset _)
    refine h.mem_steps ?_ (hall r hr)
    intro place hp
    rcases hnew place hp with hp | hp
    · cases hp
    · exact hp

/-! ## Reading by steps -/

/-- **What is matched by a step and by what it leaves.** -/
inductive Takes : Step → Cursor → Cursor → Prop
  | done (p : Cursor) : Takes .done p p
  | read {s : CharClass} {after : Rest} {b : Option Char} {c : Char} {t : Text} {q : Cursor} (hc : s.contains c = true)
      (h : MatchesAll after ⟨some c, t⟩ q) : Takes (.read s after) ⟨b, c :: t⟩ q

variable {a : Regex} {after : Rest} {p q u : Cursor} {s : Step}

theorem Offers.sound (h : Offers x r s) (hx : p.context = x) (ht : Takes s p q) : MatchesAll r p q := by
  induction h with
  | done =>
    cases ht
    exact .nil p
  | set =>
    cases ht with
    | read hc h => exact .cons (.set hc) h
  | empty _ ih => exact .cons (.empty p) (ih ht)
  | look hl _ ih => exact .cons (.look (hx ▸ hl)) (ih ht)
  | seq _ ih =>
    obtain _ | ⟨ha, _ | ⟨hb, h⟩⟩ := ih ht
    exact .cons (.seq ha hb) h
  | left _ ih =>
    obtain _ | ⟨ha, h⟩ := ih ht
    exact .cons (.left ha) h
  | right _ ih =>
    obtain _ | ⟨hb, h⟩ := ih ht
    exact .cons (.right hb) h
  | starStop _ ih => exact .cons (.starStop p) (ih ht)
  | starMore _ ih =>
    obtain _ | ⟨ha, _ | ⟨hs, h⟩⟩ := ih ht
    exact .cons (.starMore ha hs) h
  | plus _ ih =>
    obtain _ | ⟨ha, _ | ⟨hs, h⟩⟩ := ih ht
    exact .cons (.plus ha hs) h
  | againStop _ ih => exact .cons (.againStop p) (ih ht)
  | againMore _ ih =>
    obtain _ | ⟨hs, h⟩ := ih ht
    exact .cons (.againMore hs) h
  | timesNone _ ih => exact .cons (.timesNone p) (ih ht)
  | timesMore _ ih =>
    obtain _ | ⟨ha, _ | ⟨hs, h⟩⟩ := ih ht
    exact .cons (.timesMore ha hs) h
  | atMostStop _ ih => exact .cons (.atMostStop p) (ih ht)
  | atMostMore _ ih =>
    obtain _ | ⟨ha, _ | ⟨hs, h⟩⟩ := ih ht
    exact .cons (.atMostMore ha hs) h

/-- A rest matches, and by a step that it offers. -/
def Starts (p : Cursor) (r : Rest) (u : Cursor) : Prop :=
  MatchesAll r p u ∧ ∃ s, Offers p.context r s ∧ Takes s p u

theorem Starts.cons (h : MatchesAll (a :: after) p u) {r : Rest} (hs : Starts p r u)
    (hm : ∀ s, Offers p.context r s → Offers p.context (a :: after) s) : Starts p (a :: after) u := by
  obtain ⟨-, s, ho, ht⟩ := hs
  exact ⟨h, s, hm s ho, ht⟩

/-- **What an expression matches, it matches by steps**, if what follows does. -/
theorem Matches.starts (h : Matches a p q) : ∀ {after : Rest} {u : Cursor}, Starts q after u → Starts p (a :: after) u := by
  induction h with
  | empty p => exact fun hs => .cons (.cons (.empty p) hs.1) hs fun _ => .empty
  | look hl => exact fun hs => .cons (.cons (.look hl) hs.1) hs fun _ => .look hl
  | set hc => exact fun hs => ⟨.cons (.set hc) hs.1, _, .set, .read hc hs.1⟩
  | seq ha hb iha ihb => exact fun hs => .cons (.cons (.seq ha hb) hs.1) (iha (ihb hs)) fun _ => .seq
  | left ha ih => exact fun hs => .cons (.cons (.left ha) hs.1) (ih hs) fun _ => .left
  | right hb ih => exact fun hs => .cons (.cons (.right hb) hs.1) (ih hs) fun _ => .right
  | starStop p => exact fun hs => .cons (.cons (.starStop p) hs.1) hs fun _ => .starStop
  | starMore ha h iha ih => exact fun hs => .cons (.cons (.starMore ha h) hs.1) (iha (ih hs)) fun _ => .starMore
  | plus ha h iha ih => exact fun hs => .cons (.cons (.plus ha h) hs.1) (iha (ih hs)) fun _ => .plus
  | againStop p => exact fun hs => .cons (.cons (.againStop p) hs.1) hs fun _ => .againStop
  | againMore h ih => exact fun hs => .cons (.cons (.againMore h) hs.1) (ih hs) fun _ => .againMore
  | timesNone p => exact fun hs => .cons (.cons (.timesNone p) hs.1) hs fun _ => .timesNone
  | timesMore ha h iha ih => exact fun hs => .cons (.cons (.timesMore ha h) hs.1) (iha (ih hs)) fun _ => .timesMore
  | atMostStop p => exact fun hs => .cons (.cons (.atMostStop p) hs.1) hs fun _ => .atMostStop
  | atMostMore ha h iha ih => exact fun hs => .cons (.cons (.atMostMore ha h) hs.1) (iha (ih hs)) fun _ => .atMostMore

theorem MatchesAll.starts (h : MatchesAll r p q) : Starts p r q := by
  induction h with
  | nil p => exact ⟨.nil p, .done, .done, .done p⟩
  | cons ha _ ih => exact ha.starts ih

/-- **A rest matches exactly by the steps it offers.** -/
theorem matchesAll_iff : MatchesAll r p q ↔ ∃ s, Offers p.context r s ∧ Takes s p q :=
  ⟨fun h => h.starts.2, fun ⟨_, ho, ht⟩ => ho.sound rfl ht⟩

theorem mem_next {c : Char} : ∀ {ps : List Step}, r ∈ next c ps → ∃ s, .read s r ∈ ps ∧ s.contains c = true
  | .read s r' :: ps, h => by
    rw [next] at h
    split at h
    · rename_i hs
      rcases List.mem_cons.1 h with rfl | h
      · exact ⟨s, List.mem_cons_self, hs⟩
      · obtain ⟨s', hs', hc⟩ := mem_next h
        exact ⟨s', List.mem_cons_of_mem _ hs', hc⟩
    · obtain ⟨s', hs', hc⟩ := mem_next h
      exact ⟨s', List.mem_cons_of_mem _ hs', hc⟩

/-- A step that reads leaves its rest, unless one before it is done. -/
theorem next_of_read {c : Char} {s : CharClass} (hc : s.contains c = true) : ∀ {ps : List Step}, .read s r ∈ ps →
    .done ∈ ps ∨ r ∈ next c ps
  | .done :: ps, h => .inl List.mem_cons_self
  | .read s' r' :: ps, h => by
    rw [next]
    rcases List.mem_cons.1 h with h | h
    · cases h
      rw [if_pos hc]
      exact .inr List.mem_cons_self
    · rcases next_of_read hc h with h | h
      · exact .inl (List.mem_cons_of_mem _ h)
      · right
        split
        · exact List.mem_cons_of_mem _ h
        · exact h

/-- **What a run finds is a match.** -/
theorem run_sound : ∀ (t : Text) (rs : List Rest) (b : Option Char) (n : Nat), run rs b t = some n →
    ∃ r ∈ rs, ∃ q, MatchesAll r ⟨b, t⟩ q ∧ q.rest = t.drop n
  | t, rs, b, n, h => by
    have here : (if (steps ⟨b, t.head?⟩ rs).contains .done then some 0 else none) = some n →
        ∃ r ∈ rs, ∃ q, MatchesAll r ⟨b, t⟩ q ∧ q.rest = t.drop n := by
      intro h
      split at h
      · rename_i hd
        cases h
        obtain ⟨r, hr, ho⟩ := mem_steps.1 (by simpa using hd)
        exact ⟨r, hr, ⟨b, t⟩, matchesAll_iff.2 ⟨.done, ho, .done _⟩, rfl⟩
      · cases h
    cases t with
    | nil => exact here (by simpa only [run] using h)
    | cons c cs =>
      rw [run] at h
      split at h
      · exact here h
      · cases hrun : run (next c (steps ⟨b, (c :: cs).head?⟩ rs)) (some c) cs with
        | none =>
          rw [hrun] at h
          exact here h
        | some m =>
          rw [hrun] at h
          simp only [Option.map_some, Option.some_or, Option.some.injEq] at h
          obtain ⟨r', hr', q, hq, hrest⟩ := run_sound cs _ _ m hrun
          obtain ⟨s, hs, hc⟩ := mem_next hr'
          obtain ⟨r, hr, ho⟩ := mem_steps.1 hs
          refine ⟨r, hr, q, matchesAll_iff.2 ⟨_, ho, .read hc hq⟩, ?_⟩
          rw [hrest, ← h, List.drop_succ_cons]

/-- **Where there is a match, a run finds one.** -/
theorem exists_run : ∀ (t : Text) (rs : List Rest) (b : Option Char) {r : Rest}, r ∈ rs → MatchesAll r ⟨b, t⟩ q →
    ∃ n, run rs b t = some n
  | t, rs, b, r, hr, h => by
    have here (hd : .done ∈ steps ⟨b, t.head?⟩ rs) (o : Option Nat) :
        ∃ n, o.or (if (steps ⟨b, t.head?⟩ rs).contains .done then some 0 else none) = some n := by
      rw [if_pos (by simpa using hd)]
      cases o with
      | none => exact ⟨0, rfl⟩
      | some n => exact ⟨n, rfl⟩
    obtain ⟨s, ho, ht⟩ := matchesAll_iff.1 h
    have hs : s ∈ steps ⟨b, t.head?⟩ rs := mem_steps.2 ⟨_, hr, ho⟩
    cases ht with
    | done =>
      cases t with
      | nil => simpa only [run, Option.none_or] using here hs none
      | cons c cs =>
        rw [run]
        split
        · exact here hs none
        · exact here hs _
    | @read s after b c cs q hc h =>
      rw [run]
      rcases next_of_read hc hs with hd | hn
      · split
        · exact here hd none
        · exact here hd _
      · obtain ⟨n, hrun⟩ := exists_run cs _ (some c) hn h
        split
        · rename_i hnil
          rw [hnil] at hn
          cases hn
        · rw [hrun]
          exact ⟨n + 1, rfl⟩

theorem matchesAll_singleton : MatchesAll [a] p q ↔ Matches a p q := by
  constructor
  · rintro (_ | ⟨h, _ | _⟩)
    exact h
  · exact fun h => .cons h (.nil q)

/-- **The match that is found is one.** -/
theorem matchLength?_sound {t : Text} {n : Nat} (h : a.matchLength? t = some n) :
    ∃ q, Matches a ⟨none, t⟩ q ∧ q.rest = t.drop n := by
  obtain ⟨r, hr, q, hq, hrest⟩ := run_sound t [[a]] none n h
  rw [List.mem_singleton.1 hr, matchesAll_singleton] at hq
  exact ⟨q, hq, hrest⟩

/-- **Where there is a match, one is found.** -/
theorem exists_matchLength? {t : Text} (h : Matches a ⟨none, t⟩ q) : ∃ n, a.matchLength? t = some n :=
  exists_run t [[a]] none (List.mem_singleton_self _) (matchesAll_singleton.2 h)

/-! ## Single characters and rounds -/

theorem char_reads {c : Char} (h : Matches (char c) p q) : p.rest = c :: q.rest := by
  cases h with
  | @set _ b d t hd =>
    rw [CharClass.contains_single, decide_eq_true_eq] at hd
    rw [hd]

open Relation (TransGen ReflTransGen)

theorem Matches.rounds {b : Regex} (h : Matches b p q) :
    (∀ g a, b = .plus g a → TransGen (Matches a) p q) ∧ ∀ g a, b = .again g a → ReflTransGen (Matches a) p q := by
  induction h with
  | plus ha _ _ ih =>
    refine ⟨?_, fun g a h => (by cases h)⟩
    rintro g a ⟨⟩
    exact TransGen.head' ha (ih.2 _ _ rfl)
  | againStop p =>
    refine ⟨fun g a h => (by cases h), ?_⟩
    rintro g a ⟨⟩
    exact .refl
  | againMore _ ih =>
    refine ⟨fun g a h => (by cases h), ?_⟩
    rintro g a ⟨⟩
    exact (ih.1 _ _ rfl).to_reflTransGen
  | _ => exact ⟨fun g a h => (by cases h), fun g a h => (by cases h)⟩

/-- **One round or more.** -/
theorem matches_plus_iff {g : Bool} : Matches (plus g a) p q ↔ TransGen (Matches a) p q := by
  constructor
  · exact fun h => h.rounds.1 g a rfl
  · intro h
    induction h using TransGen.head_induction_on with
    | single ha => exact .plus ha (.againStop q)
    | head ha _ ih => exact .plus ha (.againMore ih)

/-- **A match leaves an end of the text.** -/
theorem Matches.suffix (h : Matches a p q) : q.rest <:+ p.rest := by
  induction h with
  | set _ => exact List.suffix_cons _ _
  | empty | look _ | starStop | againStop | timesNone | atMostStop => exact List.suffix_refl _
  | left _ ih | right _ ih | againMore _ ih => exact ih
  | seq _ _ ih ih' | starMore _ _ ih ih' | plus _ _ ih ih' | timesMore _ _ ih ih' | atMostMore _ _ ih ih' =>
    exact ih'.trans ih

/-- **Where an expression reads something, its matches do.** -/
theorem Matches.shorter (h : Matches a p q) (ha : a.isNullable = false) : q.rest.length < p.rest.length := by
  induction h with
  | set _ => exact Nat.lt_succ_self _
  | empty | look _ | starStop | againStop | atMostStop | timesNone | starMore | againMore _ _ | atMostMore => cases ha
  | seq hp hq ihp ihq =>
    rw [isNullable, Bool.and_eq_false_iff] at ha
    rcases ha with ha | ha
    · exact Nat.lt_of_le_of_lt hq.suffix.length_le (ihp ha)
    · exact Nat.lt_of_lt_of_le (ihq ha) hp.suffix.length_le
  | left _ ih =>
    rw [isNullable, Bool.or_eq_false_iff] at ha
    exact ih ha.1
  | right _ ih =>
    rw [isNullable, Bool.or_eq_false_iff] at ha
    exact ih ha.2
  | plus _ hq ih _ => exact Nat.lt_of_le_of_lt hq.suffix.length_le (ih ha)
  | timesMore _ hq ih _ =>
    have ha' : isNullable _ = false := (Bool.or_eq_false_iff.1 ha).2
    exact Nat.lt_of_le_of_lt hq.suffix.length_le (ih ha')

theorem Matches.starRounds {b : Regex} (h : Matches b p q) : ∀ g a, b = .star g a → ReflTransGen (Matches a) p q := by
  induction h with
  | starStop p =>
    rintro g a ⟨⟩
    exact .refl
  | starMore ha _ _ ih =>
    rintro g a ⟨⟩
    exact .head ha (ih _ _ rfl)
  | _ => exact fun g a h => (by cases h)

/-- **Any number of rounds.** -/
theorem matches_star_iff {g : Bool} : Matches (star g a) p q ↔ ReflTransGen (Matches a) p q := by
  constructor
  · exact fun h => h.starRounds g a rfl
  · intro h
    induction h using ReflTransGen.head_induction_on with
    | refl => exact .starStop q
    | head ha _ ih => exact .starMore ha ih

/-- Rounds of a single character read a piece of such characters. -/
theorem plus_set_reads {g : Bool} {cs : CharClass} (h : Matches (plus g (set cs)) p q) :
    ∃ v, v ≠ [] ∧ (∀ c ∈ v, cs.contains c = true) ∧ p.rest = v ++ q.rest := by
  rw [matches_plus_iff] at h
  induction h using TransGen.head_induction_on with
  | single h =>
    cases h with
    | @set _ b c t hc => exact ⟨[c], by simp, by simpa using hc, rfl⟩
  | head h _ ih =>
    obtain ⟨v, -, hv, hrest⟩ := ih
    cases h with
    | @set _ b c t hc => exact ⟨c :: v, by simp, by simpa using ⟨hc, hv⟩, congrArg (c :: ·) hrest⟩

theorem exists_plus_set {g : Bool} {cs : CharClass} : ∀ {v t : Text} (b : Option Char), v ≠ [] →
    (∀ c ∈ v, cs.contains c = true) → ∃ b', Matches (plus g (set cs)) ⟨b, v ++ t⟩ ⟨b', t⟩
  | [], _, _, h, _ => absurd rfl h
  | [c], t, b, _, hv => ⟨some c, matches_plus_iff.2 (.single (.set (hv c List.mem_cons_self)))⟩
  | c :: d :: v, t, b, _, hv => by
    obtain ⟨b', h⟩ := exists_plus_set (g := g) (v := d :: v) (t := t) (some c) (by simp) fun c' hc' =>
      hv c' (List.mem_cons_of_mem _ hc')
    exact ⟨b', matches_plus_iff.2 (.head (.set (hv c List.mem_cons_self)) (matches_plus_iff.1 h))⟩

end Regex

namespace Pattern

open Regex (Matches)

variable {w t : Text} {r : Regex} {n : Nat}

/-- **A pattern that is an expression takes what the expression matches.** -/
theorem regex_sound (h : (regex w r).matchLength? t = some n) : ∃ q, Matches r ⟨none, t⟩ q ∧ q.rest = t.drop n := by
  obtain ⟨hr, -⟩ := regex_eq_some h
  exact Regex.matchLength?_sound hr

/-- **Where the expression matches, and never nothing, the pattern takes something.** -/
theorem exists_regex {q : Regex.Cursor} (h : Matches r ⟨none, t⟩ q) (hne : ∀ q, Matches r ⟨none, t⟩ q → q.rest ≠ t) :
    ∃ n, (regex w r).matchLength? t = some n := by
  obtain ⟨n, hn⟩ := Regex.exists_matchLength? h
  obtain ⟨q', hq', hrest⟩ := Regex.matchLength?_sound hn
  refine ⟨n, ?_⟩
  rw [matchLength?, Option.filter_eq_some_iff]
  refine ⟨hn, decide_eq_true (Nat.pos_of_ne_zero fun h0 => hne q' hq' ?_)⟩
  rw [hrest, h0, List.drop_zero]

/-- **Where all matches end at one place**, the pattern takes what precedes it. -/
theorem regex_of_unique {q : Regex.Cursor} {v u : Text} (h : Matches r ⟨none, v ++ u⟩ q) (hne : v ≠ [])
    (hu : ∀ q, Matches r ⟨none, v ++ u⟩ q → q.rest = u) : (regex w r).matchLength? (v ++ u) = some v.length := by
  have hlen := List.length_pos_iff.2 hne
  obtain ⟨n, hn⟩ := exists_regex (w := w) h fun q hq hrest => by
    have hsame := congrArg List.length ((hu q hq).symm.trans hrest)
    rw [List.length_append] at hsame
    omega
  obtain ⟨q', hq', hrest⟩ := regex_sound hn
  have hbound := Regex.run_le_length _ _ _ _ (regex_eq_some hn).1
  have hdrop := congrArg List.length ((hu q' hq').symm.trans hrest)
  rw [List.length_append] at hbound
  rw [List.length_drop, List.length_append] at hdrop
  rw [hn, Option.some.injEq]
  omega

end Pattern
end ModalLexer
