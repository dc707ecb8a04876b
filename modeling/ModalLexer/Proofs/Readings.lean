import ModalLexer.Proofs.Backtracking
/-!
# Readings — texts read item by item

A reading says what is left behind the first item of a text.  It comes to places of the text, one after another, and stops
at the last of them (`Reading.places`, `Reading.stop`).  `Reading.upTo` is the one that goes on within its line to a
character that is not escaped.

An expression may go by items too: whatever it matches of a text, it leaves what the first item leaves
(`Regex.Follows`).  Then there is nothing to be gone back over but the number of its rounds.  A closing character behind
the rounds settles it, if no item begins with one (`Regex.Follows.closed_iff`), and so does whatever else matches nowhere
before an item: the rounds go on to where the reading stops (`Regex.leaves_star_follows`).
-/
namespace ModalLexer

open Regex (Matches)

/-! ## Reading item by item -/

/-- A way to read a text: what is left behind its first item, if there is one. -/
structure Reading where
  item : Text → Option Text
  shorter : ∀ {t u : Text}, item t = some u → ∃ c v, t = c :: v ∧ u <:+ v

namespace Reading

variable {R : Reading} {t u : Text}

def placesWithin (R : Reading) : Nat → Text → List Text
  | 0, t => [t]
  | n + 1, t => match R.item t with
    | none => [t]
    | some u => t :: R.placesWithin n u

/-- The places that the reading comes to: what is left there, from the whole text on. -/
def places (R : Reading) (t : Text) : List Text := R.placesWithin t.length t

/-- What is left where the reading stops. -/
def stop (R : Reading) (t : Text) : Text := (R.places t).getLastD t

theorem length_of_item (h : R.item t = some u) : u.length < t.length := by
  obtain ⟨c, v, rfl, hu⟩ := R.shorter h
  exact Nat.lt_succ_of_le hu.length_le

theorem placesWithin_enough (R : Reading) : ∀ (n m : Nat) (t : Text), t.length ≤ n → t.length ≤ m →
    R.placesWithin n t = R.placesWithin m t
  | n, m, t, hn, hm => by
    cases hi : R.item t with
    | none => cases n <;> cases m <;> simp [placesWithin, hi]
    | some u =>
      have hlt := length_of_item hi
      obtain ⟨n, rfl⟩ := Nat.exists_eq_succ_of_ne_zero (n := n) (by omega)
      obtain ⟨m, rfl⟩ := Nat.exists_eq_succ_of_ne_zero (n := m) (by omega)
      rw [placesWithin, placesWithin, hi]
      exact congrArg (t :: ·) (placesWithin_enough R n m u (by omega) (by omega))

theorem places_of_none (h : R.item t = none) : R.places t = [t] := by
  unfold places
  cases t.length <;> simp [placesWithin, h]

theorem places_of_item (h : R.item t = some u) : R.places t = t :: R.places u := by
  have hlt := length_of_item h
  obtain ⟨n, hn⟩ := Nat.exists_eq_succ_of_ne_zero (n := t.length) (by omega)
  rw [places, hn, placesWithin, h]
  exact congrArg (t :: ·) (placesWithin_enough R n u.length u (by omega) (Nat.le_refl _))

theorem exists_places (R : Reading) (t : Text) : ∃ us, R.places t = t :: us := by
  cases hi : R.item t with
  | none => exact ⟨[], places_of_none hi⟩
  | some u => exact ⟨_, places_of_item hi⟩

theorem stop_of_none (h : R.item t = none) : R.stop t = t := by
  rw [stop, places_of_none h]
  rfl

theorem stop_of_item (h : R.item t = some u) : R.stop t = R.stop u := by
  obtain ⟨us, hus⟩ := R.exists_places u
  simp only [stop, places_of_item h, hus, List.getLastD_cons]

theorem stop_suffix (R : Reading) : ∀ t : Text, R.stop t <:+ t
  | t => by
    cases hi : R.item t with
    | none => exact ⟨[], stop_of_none hi⟩
    | some u =>
      have := length_of_item hi
      obtain ⟨c, v, rfl, hu⟩ := R.shorter hi
      rw [stop_of_item hi]
      exact (stop_suffix R u).trans (hu.trans (List.suffix_cons c v))
termination_by t => t.length

/-- A reading stops where there is no item. -/
theorem item_stop (R : Reading) : ∀ t : Text, R.item (R.stop t) = none
  | t => by
    cases hi : R.item t with
    | none => rw [stop_of_none hi, hi]
    | some u =>
      have := length_of_item hi
      rw [stop_of_item hi]
      exact item_stop R u
termination_by t => t.length

end Reading

/-! ## Closing characters -/

/-- What is behind `q`, if a reading has stopped at one. -/
def closed? (q : Char) : Text → Option Text
  | [] => none
  | c :: t => if c = q then some t else none

theorem closed?_eq_some {q : Char} {t u : Text} : closed? q t = some u ↔ t = q :: u := by
  cases t with
  | nil => simp [closed?]
  | cons c t =>
    rw [closed?]
    split
    · rename_i h
      simp [h]
    · rename_i h
      simp [h]

theorem closed?_getD_suffix {q : Char} {t u : Text} (h : t <:+ u) : (closed? q t).getD u <:+ u := by
  cases hc : closed? q t with
  | none => exact List.suffix_refl u
  | some v =>
    rw [closed?_eq_some.1 hc] at h
    exact (List.suffix_cons q v).trans h

namespace Reading

/-- A character other than `q`, or an escape, within the line. -/
def upToItem (q : Char) : Text → Option Text
  | [] => none
  | ['\\'] => none
  | '\\' :: c :: t => if c = '\n' ∨ c = '\r' then none else some t
  | c :: t => if c = q ∨ c = '\n' ∨ c = '\r' then none else some t

variable {q c : Char} {t u : Text}

theorem upToItem_cons (hb : c ≠ '\\') (t : Text) :
    upToItem q (c :: t) = if c = q ∨ c = '\n' ∨ c = '\r' then none else some t := by
  rw [upToItem] <;> simp_all

theorem upToItem_eq_some : upToItem q t = some u ↔
    (∃ c, t = c :: u ∧ c ∉ [q, '\\', '\n', '\r']) ∨ ∃ c, t = '\\' :: c :: u ∧ c ∉ ['\n', '\r'] := by
  rcases t with _ | ⟨c, t⟩
  · simp [upToItem]
  by_cases hb : c = '\\'
  · subst hb
    rcases t with _ | ⟨d, t⟩
    · simp [upToItem]
    · simp [upToItem]
      tauto
  · rw [upToItem_cons hb]
    simp [hb]
    tauto

/-- **Within the line up to `q`**, where it is not escaped. -/
def upTo (q : Char) : Reading where
  item := upToItem q
  shorter := by
    intro t u h
    rcases upToItem_eq_some.1 h with ⟨c, rfl, -⟩ | ⟨c, rfl, -⟩
    · exact ⟨c, u, rfl, List.suffix_refl u⟩
    · exact ⟨'\\', c :: u, rfl, List.suffix_cons c u⟩

@[simp] theorem upTo_item (q : Char) (t : Text) : (upTo q).item t = upToItem q t := rfl

theorem upToItem_closing (q : Char) (hq : q ≠ '\\') (u : Text) : upToItem q (q :: u) = none := by
  rw [upToItem_cons hq, if_pos (.inl rfl)]

end Reading

/-! ## Expressions that go by items -/

/-- Any character but those listed. -/
def CharClass.noneOf (cs : List Char) : CharClass := .compl (.unions (cs.map .single))

theorem CharClass.contains_noneOf {cs : List Char} {c : Char} : (noneOf cs).contains c = true ↔ c ∉ cs := by
  simp only [noneOf, contains, contains_unions, List.any_map, Bool.not_eq_true', List.any_eq_false, Function.comp_apply,
    contains_single, decide_eq_true_eq]
  exact ⟨fun h hc => h c hc rfl, fun h d hd hc => h (hc ▸ hd)⟩

namespace Regex

/-- **An expression goes by items**: what it may leave of a text is what the first item leaves. -/
def Follows (a : Regex) (item : Text → Option Text) : Prop :=
  ∀ b t u, (∃ b', Matches a ⟨b, t⟩ ⟨b', u⟩) ↔ item t = some u

variable {a : Regex} {r : Rest} {p p' : Cursor} {R : Reading} {item f : Text → Option Text} {g : Bool} {q : Char}
  {b : Option Char} {t u : Text}

theorem Follows.item_eq (h : a.Follows item) (hm : Matches a p p') : item p.rest = some p'.rest :=
  (h p.before p.rest p'.rest).1 ⟨p'.before, hm⟩

/-- **Rounds keep the place where the reading stops.** -/
theorem Follows.stop_eq (h : a.Follows R.item) (hs : Matches (star g a) p p') : R.stop p.rest = R.stop p'.rest := by
  have hrounds := matches_star_iff.1 hs
  clear hs
  induction hrounds with
  | refl => rfl
  | tail _ hlast ih => exact ih.trans (Reading.stop_of_item (h.item_eq hlast))

/-- **Rounds lead to the place where the reading stops.** -/
theorem Follows.exists_star (h : a.Follows R.item) (g : Bool) : ∀ (t : Text) (b : Option Char),
    ∃ b', Matches (star g a) ⟨b, t⟩ ⟨b', R.stop t⟩
  | t, b => by
    cases hi : R.item t with
    | none =>
      rw [Reading.stop_of_none hi]
      exact ⟨b, .starStop _⟩
    | some u =>
      have := Reading.length_of_item hi
      obtain ⟨b₁, hitem⟩ := (h b t u).2 hi
      obtain ⟨b', hstar⟩ := h.exists_star g u b₁
      rw [Reading.stop_of_item hi]
      exact ⟨b', .starMore hitem hstar⟩
termination_by t => t.length

/-- **Rounds and a closing character**, which begins no item, match up to it, if the reading stops there. -/
theorem Follows.closed_iff (h : a.Follows R.item) (hq : ∀ u, R.item (q :: u) = none) :
    (∃ b', Matches (seq (star g a) (char q)) ⟨b, t⟩ ⟨b', u⟩) ↔ R.stop t = q :: u := by
  constructor
  · rintro ⟨b', h'⟩
    cases h' with
    | seq hs hc => rw [h.stop_eq hs, char_reads hc, Reading.stop_of_none (hq u)]
  · intro hstop
    obtain ⟨b', hstar⟩ := h.exists_star g t b
    rw [hstop] at hstar
    exact ⟨some q, .seq hstar (.set (by rw [CharClass.contains_single]; simp))⟩

/-- **What is left behind an expression that goes by items** is left behind the first item. -/
theorem leaves_follows (h : a.Follows item) (ha : a.isProper = true) (hr : Proper r)
    (hnext : ∀ q : Cursor, item p.rest = some q.rest → leaves r q = f q.rest) :
    leaves (a :: r) p = (item p.rest).bind f := by
  cases hi : item p.rest with
  | none =>
    refine leaves_eq_none ha hr fun q hq => ?_
    have hsome := h.item_eq hq
    rw [hi] at hsome
    cases hsome
  | some u =>
    obtain ⟨b', hex⟩ := (h p.before p.rest u).2 hi
    refine leaves_of_ends ha hr ⟨_, hex⟩ fun q hq => ?_
    have hsame := h.item_eq hq
    rw [hnext q hsame]
    rw [hi, Option.some.injEq] at hsame
    rw [hsame]
    rfl

/-- **Rounds go on to where the reading stops**, if what follows them matches nowhere before an item. -/
theorem leaves_star_follows (h : a.Follows R.item) (ha : (star true a).isProper = true) (hr : Proper r)
    (hnext : ∀ q : Cursor, leaves r q = f q.rest) (hstop : ∀ t, (R.item t).isSome = true → f t = none) :
    ∀ p : Cursor, leaves (star true a :: r) p = f (R.stop p.rest)
  | p => by
    have ha' : a.isProper = true := (Bool.and_eq_true_iff.1 ha).2
    have hproper : Proper (star true a :: r) := proper_cons.2 ⟨ha, hr⟩
    have hmore : leaves (a :: star true a :: r) p = (R.item p.rest).bind fun t => f (R.stop t) :=
      leaves_follows h ha' hproper fun q hq =>
        have := Reading.length_of_item hq
        leaves_star_follows h ha hr hnext hstop q
    rw [leaves_star hproper, hmore, hnext]
    cases hi : R.item p.rest with
    | none =>
      rw [Reading.stop_of_none hi]
      rfl
    | some u =>
      rw [Reading.stop_of_item hi, hstop p.rest (by rw [hi]; rfl)]
      exact Option.or_none
termination_by p => p.rest.length

/-! ## Units of a line -/

/-- A character that does not break the line. -/
def inLine : Regex := set (.compl (.unions [.single '\n', .single '\r']))

/-- A character other than `q`, or an escape, within the line. -/
def lineUnit (q : Char) : Regex := alt (set (.noneOf [q, '\\', '\n', '\r'])) (seq (char '\\') inLine)

theorem exists_set_iff {s : CharClass} :
    (∃ b', Matches (set s) ⟨b, t⟩ ⟨b', u⟩) ↔ ∃ c, t = c :: u ∧ s.contains c = true := by
  constructor
  · rintro ⟨b', h⟩
    cases h with
    | set hc => exact ⟨_, rfl, hc⟩
  · rintro ⟨c, rfl, hc⟩
    exact ⟨some c, .set hc⟩

theorem exists_alt_iff {a₁ a₂ : Regex} : (∃ b', Matches (alt a₁ a₂) ⟨b, t⟩ ⟨b', u⟩) ↔
    (∃ b', Matches a₁ ⟨b, t⟩ ⟨b', u⟩) ∨ ∃ b', Matches a₂ ⟨b, t⟩ ⟨b', u⟩ := by
  constructor
  · rintro ⟨b', h⟩
    cases h with
    | left h => exact .inl ⟨b', h⟩
    | right h => exact .inr ⟨b', h⟩
  · rintro (⟨b', h⟩ | ⟨b', h⟩)
    · exact ⟨b', .left h⟩
    · exact ⟨b', .right h⟩

theorem exists_behind_iff : (∃ b', Matches (seq (char q) a) ⟨b, t⟩ ⟨b', u⟩) ↔
    ∃ v, t = q :: v ∧ ∃ b', Matches a ⟨some q, v⟩ ⟨b', u⟩ := by
  constructor
  · rintro ⟨b', h⟩
    cases h with
    | seq hq h =>
      cases hq with
      | set hc =>
        rw [CharClass.contains_single, decide_eq_true_eq] at hc
        exact ⟨_, by rw [hc], b', hc ▸ h⟩
  · rintro ⟨v, rfl, b', h⟩
    exact ⟨b', .seq (.set (by rw [CharClass.contains_single]; simp)) h⟩

theorem escape_iff : (∃ b', Matches (seq (char '\\') inLine) ⟨b, t⟩ ⟨b', u⟩) ↔
    ∃ c, t = '\\' :: c :: u ∧ c ∉ ['\n', '\r'] := by
  have hline : inLine = set (.noneOf ['\n', '\r']) := rfl
  rw [exists_behind_iff, hline]
  simp only [exists_set_iff, CharClass.contains_noneOf]
  constructor
  · rintro ⟨v, rfl, c, rfl, hc⟩
    exact ⟨c, rfl, hc⟩
  · rintro ⟨c, rfl, hc⟩
    exact ⟨_, rfl, c, rfl, hc⟩

/-- **A unit within the line goes by the reading up to its closing character.** -/
theorem lineUnit_follows (q : Char) : (lineUnit q).Follows (Reading.upTo q).item := by
  intro b t u
  rw [Reading.upTo_item, Reading.upToItem_eq_some, lineUnit, exists_alt_iff, exists_set_iff, escape_iff]
  simp only [CharClass.contains_noneOf]

end Regex
end ModalLexer
