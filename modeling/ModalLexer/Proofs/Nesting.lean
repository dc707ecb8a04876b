import ModalLexer.Brackets
/-!
# Nesting — words of brackets

What it means for brackets to match, said without a scanner.  A word of brackets is `Nested` if every bracket in it has
its partner, and `Unmatched w os` says that in `w` the openers `os`, the outermost first, are still without a partner
and all else has one.  There is at most one such list (`Unmatched.unique`), and if there is one, the word can be
completed (`Unmatched.completes`): it is the beginning of a nested word.
-/
namespace ModalLexer

open Brackets (closerFor? isOpener isCloser)

abbrev BracketWord := List (Char × Location)

/-- **Every bracket has its partner.** -/
inductive Nested : BracketWord → Prop
  | nil : Nested []
  | wrap {o c : Char × Location} {u v : BracketWord} (h : closerFor? o.1 = some c.1) (hu : Nested u) (hv : Nested v) :
      Nested (o :: u ++ c :: v)

/-- **All but some openers have their partners.** -/
inductive Unmatched : BracketWord → List OpenBracket → Prop
  | nested {u : BracketWord} (hu : Nested u) : Unmatched u []
  | opener {u w : BracketWord} {o : OpenBracket} {os : List OpenBracket} (hu : Nested u)
      (ho : isOpener o.bracket = true) (h : Unmatched w os) : Unmatched (u ++ (o.bracket, o.loc) :: w) (o :: os)

theorem Brackets.isOpener_iff {c : Char} : isOpener c = true ↔ ∃ d, closerFor? c = some d := by
  unfold isOpener closerFor?
  simp only [Bool.or_eq_true, beq_iff_eq]
  constructor
  · rintro ((rfl | rfl) | rfl)
    · exact ⟨'\x7d', by decide⟩
    · exact ⟨']', by decide⟩
    · exact ⟨')', by decide⟩
  · rintro ⟨d, h⟩
    split at h
    · simp_all
    · split at h
      · simp_all
      · split at h
        · simp_all
        · cases h

theorem Brackets.closer_of_fits {o c : Char} (h : closerFor? o = some c) : isOpener c = false ∧ isCloser c = true := by
  unfold closerFor? at h
  split at h
  · cases h; decide
  · split at h
    · cases h; decide
    · split at h
      · cases h; decide
      · cases h

namespace Nested

theorem append {u v : BracketWord} (hu : Nested u) (hv : Nested v) : Nested (u ++ v) := by
  induction hu with
  | nil => exact hv
  | @wrap o c u w h hu _ _ ih =>
    rw [List.append_assoc, List.cons_append]
    exact .wrap h hu ih

theorem enclose {o c : Char × Location} {u : BracketWord} (h : closerFor? o.1 = some c.1) (hu : Nested u) :
    Nested (o :: u ++ [c]) :=
  .wrap h hu .nil

end Nested

namespace Unmatched

variable {w : BracketWord} {os : List OpenBracket}

/-- **The word can be completed.** -/
theorem completes (h : Unmatched w os) : ∃ v, Nested (w ++ v) := by
  induction h with
  | @nested u hu => exact ⟨[], by rw [List.append_nil]; exact hu⟩
  | @opener u w o os hu ho _ ih =>
    obtain ⟨v, hv⟩ := ih
    obtain ⟨c, hc⟩ := Brackets.isOpener_iff.1 ho
    refine ⟨v ++ [(c, o.loc)], ?_⟩
    have := hu.append (Nested.enclose (o := (o.bracket, o.loc)) (c := (c, o.loc)) hc hv)
    simpa using this

theorem snoc_opener {c : Char} {loc : Location} (h : Unmatched w os) (hc : isOpener c = true) :
    Unmatched (w ++ [(c, loc)]) (os ++ [⟨c, loc⟩]) := by
  induction h with
  | @nested u hu => exact .opener (o := ⟨c, loc⟩) hu hc (.nested .nil)
  | @opener u w o os hu ho _ ih =>
    rw [List.append_assoc, List.cons_append, List.cons_append]
    exact .opener hu ho ih

/-- **A closer is the partner of the innermost opener** that it fits. -/
theorem snoc_closer {o : OpenBracket} {c : Char} {loc : Location} :
    ∀ {os : List OpenBracket} {w : BracketWord}, Unmatched w (os ++ [o]) → closerFor? o.bracket = some c →
      Unmatched (w ++ [(c, loc)]) os
  | [], _, .opener (u := u) hu ho (.nested hw), hc => by
    have := hu.append (Nested.enclose (o := (o.bracket, o.loc)) (c := (c, loc)) hc hw)
    rw [List.append_assoc]
    exact .nested this
  | p :: os, _, .opener hu ho h, hc => by
    rw [List.append_assoc, List.cons_append]
    exact .opener hu ho (snoc_closer h hc)

end Unmatched

/-! ## Reading a word -/

namespace Brackets

/-- The openers without a partner, the innermost first, after one more bracket. -/
def readBracket (os : List OpenBracket) (c : Char × Location) : Option (List OpenBracket) :=
  if isOpener c.1 then some (⟨c.1, c.2⟩ :: os)
  else match os with
    | [] => none
    | o :: os => if closerFor? o.bracket = some c.1 then some os else none

def read (os : List OpenBracket) (w : BracketWord) : Option (List OpenBracket) := w.foldlM readBracket os

theorem read_cons (os : List OpenBracket) (c : Char × Location) (w : BracketWord) :
    read os (c :: w) = (readBracket os c).bind (read · w) := List.foldlM_cons

theorem read_append (os : List OpenBracket) (u v : BracketWord) :
    read os (u ++ v) = (read os u).bind (read · v) := List.foldlM_append

theorem readBracket_opener {c : Char × Location} (os : List OpenBracket) (h : isOpener c.1 = true) :
    readBracket os c = some (⟨c.1, c.2⟩ :: os) := if_pos h

theorem readBracket_closer {o : OpenBracket} {c : Char × Location} (os : List OpenBracket)
    (h : closerFor? o.bracket = some c.1) : readBracket (o :: os) c = some os := by
  simp [readBracket, (closer_of_fits h).1, h]

end Brackets

theorem Nested.read {u : BracketWord} (h : Nested u) : ∀ os, Brackets.read os u = some os := by
  induction h with
  | nil => exact fun _ => rfl
  | @wrap o c u v h _ _ ihu ihv =>
    intro os
    rw [List.cons_append, Brackets.read_cons, Brackets.readBracket_opener os (Brackets.isOpener_iff.2 ⟨c.1, h⟩),
      Option.bind_some, Brackets.read_append, ihu, Option.bind_some, Brackets.read_cons,
      Brackets.readBracket_closer os h, Option.bind_some, ihv]

theorem Unmatched.read {w : BracketWord} {os : List OpenBracket} (h : Unmatched w os) :
    ∀ ps, Brackets.read ps w = some (os.reverse ++ ps) := by
  induction h with
  | nested hu => exact hu.read
  | @opener u w o os hu ho _ ih =>
    intro ps
    rw [Brackets.read_append, hu.read, Option.bind_some, Brackets.read_cons, Brackets.readBracket_opener ps ho,
      Option.bind_some, ih, List.reverse_cons, List.append_assoc]
    rfl

/-- **A word tells which of its openers have no partner.** -/
theorem Unmatched.unique {w : BracketWord} {os os' : List OpenBracket} (h : Unmatched w os) (h' : Unmatched w os') :
    os = os' := by
  have := (h.read []).symm.trans (h'.read [])
  simpa using this

end ModalLexer
