import Mathlib.Data.List.DropRight
import ModalLexer.Proofs.Openings
/-!
# Lines — the line of a place, its column, and the caret below it

A location counts lines and columns forward, while a text is walked over; the line that is shown with it is looked up
from its offset, backward and forward.  Both go by the line feeds.  The text before a place is whole lines, each with its
line feed, and the beginning of one more (`exists_lines`), and cutting a text at its line feeds gives those lines back
(`splitOn_lines`).  So the count of lines is the number of the line that is looked up, and the column is one more than
the length of its beginning (`caret_points_to_place`).  An offset that is no place counts as the last place before it
(`exists_floor`).
-/
namespace ModalLexer
namespace Text

variable {source p s u piece line : Text} {before : List Text}

/-- Lines with their line feeds. -/
def unlines (lines : List Text) : Text := lines.flatMap (· ++ ['\n'])

/-- **The line of a place.**  The text before the place is the lines `before` and then `u`, the beginning of `piece`.  All
of them are pieces of the text between its line feeds. -/
structure OnLine (source p : Text) (before : List Text) (u piece : Text) : Prop where
  pieces : ∃ after, source.splitOn '\n' = before ++ piece :: after
  place : p = unlines before ++ u
  begins : u <+: piece

/-- A line is a piece without the carriage returns at its end. -/
structure Trims (piece line : Text) : Prop where
  returns : ∃ n, piece = line ++ List.replicate n '\r'
  last : line.getLast? ≠ some '\r'

/-! ## Cutting at line feeds -/

/-- **A text is lines and the beginning of one more.** -/
theorem exists_lines (p : Text) : ∃ before u, p = unlines before ++ u ∧ (∀ l ∈ before, '\n' ∉ l) ∧ '\n' ∉ u := by
  induction p using List.reverseRecOn with
  | nil => exact ⟨[], [], rfl, by simp, by simp⟩
  | append_singleton p c ih =>
    obtain ⟨before, u, rfl, hbefore, hu⟩ := ih
    by_cases hc : c = '\n'
    · refine ⟨before ++ [u], [], ?_, fun l hl => ?_, by simp⟩
      · simp [unlines, hc]
      · rcases List.mem_append.1 hl with hl | hl
        · exact hbefore l hl
        · rwa [List.mem_singleton.1 hl]
    · refine ⟨before, u ++ [c], List.append_assoc .., hbefore, fun hmem => ?_⟩
      rcases List.mem_append.1 hmem with hmem | hmem
      · exact hu hmem
      · exact hc (List.mem_singleton.1 hmem).symm

theorem unlines_cons (l : Text) (before : List Text) (t : Text) :
    unlines (l :: before) ++ t = l ++ '\n' :: (unlines before ++ t) := by
  rw [unlines, List.flatMap_cons, List.append_assoc, List.append_assoc]
  rfl

theorem count_unlines (hu : '\n' ∉ u) : ∀ {before : List Text}, (∀ l ∈ before, '\n' ∉ l) →
    (unlines before ++ u).count '\n' = before.length
  | [], _ => List.count_eq_zero.2 hu
  | l :: before, h => by
    have ih := count_unlines hu fun l' hl' => h l' (List.mem_cons_of_mem _ hl')
    have hl : l.count '\n' = 0 := List.count_eq_zero.2 (h l List.mem_cons_self)
    rw [unlines_cons, List.count_append, hl, List.count_cons_self, ih, Nat.zero_add, List.length_cons]

theorem ne_of_notMem {t : Text} (h : '\n' ∉ t) : ∀ c ∈ t, (c == '\n') = false := fun _ hc =>
  beq_eq_false_iff_ne.2 (ne_of_mem_of_not_mem hc h)

/-- **Lines are cut off one by one.** -/
theorem splitOn_lines (t : Text) : ∀ {before : List Text}, (∀ l ∈ before, '\n' ∉ l) →
    (unlines before ++ t).splitOn '\n' = before ++ t.splitOn '\n'
  | [], _ => rfl
  | l :: before, h => by
    have ih := splitOn_lines t fun l' hl' => h l' (List.mem_cons_of_mem _ hl')
    have hl := ne_of_notMem (h l List.mem_cons_self)
    rw [unlines_cons, List.splitOn_eq_splitOnP, List.splitOnP_append_cons_of_forall_mem hl _ (beq_self_eq_true _),
      ← List.splitOn_eq_splitOnP, ih, List.cons_append]

/-- The first piece of a text reaches to its first line feed. -/
theorem splitOn_begins (hu : '\n' ∉ u) (s : Text) :
    ∃ after, (u ++ s).splitOn '\n' = (u ++ s.takeWhile inLine) :: after := by
  have hfirst : ∀ c ∈ u ++ s.takeWhile inLine, (c == '\n') = false := by
    refine ne_of_notMem fun hmem => ?_
    rcases List.mem_append.1 hmem with hmem | hmem
    · exact hu hmem
    · exact absurd (List.mem_takeWhile_imp hmem) (by decide)
  have hs : u ++ s = (u ++ s.takeWhile inLine) ++ s.dropWhile inLine := by
    rw [List.append_assoc, List.takeWhile_append_dropWhile]
  rw [hs, List.splitOn_eq_splitOnP]
  cases hd : s.dropWhile inLine with
  | nil => exact ⟨[], by rw [List.append_nil, List.splitOnP_eq_singleton hfirst]⟩
  | cons c rest =>
    have hc : (c == '\n') = true := by
      have hhead := List.head?_dropWhile_not inLine s
      rw [hd] at hhead
      simpa [inLine] using hhead
    exact ⟨_, List.splitOnP_append_cons_of_forall_mem hfirst _ hc _⟩

/-- What stands behind the last line feed. -/
theorem rtakeWhile_unlines (before : List Text) (hu : '\n' ∉ u) : (unlines before ++ u).rtakeWhile inLine = u := by
  have htake : ∀ c ∈ u.reverse, inLine c = true := fun c hc =>
    bne_iff_ne.2 (ne_of_mem_of_not_mem (List.mem_reverse.1 hc) hu)
  have hstop : (unlines before).reverse.takeWhile inLine = [] := by
    rcases List.eq_nil_or_concat before with rfl | ⟨before, l, rfl⟩
    · rfl
    · simp [unlines, inLine]
  rw [List.rtakeWhile, List.reverse_append, List.takeWhile_append_of_pos htake, hstop, List.append_nil,
    List.reverse_reverse]

/-! ## Looking up a line -/

theorem charsWithin_bytes (s : Text) : ∀ p : Text, charsWithin p.bytes (p ++ s) = p.length
  | [] => by
    cases s with
    | nil => rfl
    | cons c s =>
      have hpos := c.utf8Size_pos
      rw [List.nil_append, bytes_nil, charsWithin, if_neg (by omega), List.length_nil]
  | c :: p => by
    have hle : c.utf8Size ≤ bytes (c :: p) := by rw [bytes_cons]; exact Nat.le_add_right _ _
    rw [List.cons_append, charsWithin, if_pos hle, bytes_cons, Nat.add_sub_cancel_left, charsWithin_bytes s p,
      List.length_cons]

theorem trims_dropTrailing (piece : Text) : Trims piece (dropTrailing (· == '\r') piece) := by
  have hsplit := List.takeWhile_append_dropWhile (p := (· == '\r')) (l := piece.reverse)
  constructor
  · refine ⟨(piece.reverse.takeWhile (· == '\r')).length, ?_⟩
    have hall : piece.reverse.takeWhile (· == '\r') =
        List.replicate (piece.reverse.takeWhile (· == '\r')).length '\r' :=
      List.eq_replicate_iff.2 ⟨rfl, fun c hc => by simpa using List.mem_takeWhile_imp hc⟩
    rw [← List.reverse_replicate, ← hall, dropTrailing, ← List.reverse_append, hsplit, List.reverse_reverse]
  · intro hlast
    rw [dropTrailing, List.getLast?_reverse] at hlast
    have hhead := List.head?_dropWhile_not (· == '\r') piece.reverse
    rw [hlast] at hhead
    exact absurd hhead (by decide)

/-- **The line looked up at a place** is the line of the place. -/
theorem exists_onLine (p s : Text) : ∃ before u piece, OnLine (p ++ s) p before u piece ∧
    Trims piece (lineAt (p ++ s) p.bytes) ∧ before.length = p.count '\n' ∧ u = p.rtakeWhile inLine := by
  obtain ⟨before, u, hp, hbefore, hu⟩ := exists_lines p
  obtain ⟨after, hfirst⟩ := splitOn_begins hu s
  have hlast : p.rtakeWhile inLine = u := by rw [hp, rtakeWhile_unlines before hu]
  have hline : lineAt (p ++ s) p.bytes = dropTrailing (· == '\r') (u ++ s.takeWhile inLine) := by
    rw [lineAt, charsWithin_bytes, List.take_left, List.drop_left, ← hlast]
    rfl
  refine ⟨before, u, u ++ s.takeWhile inLine, ⟨⟨after, ?_⟩, hp, List.prefix_append _ _⟩, ?_, ?_, hlast.symm⟩
  · rw [hp, List.append_assoc, splitOn_lines _ hbefore, hfirst]
  · rw [hline]
    exact trims_dropTrailing _
  · rw [hp, count_unlines hu hbefore]

/-! ## Offsets that are no place -/

theorem charsWithin_le_length : ∀ (n : Nat) (t : Text), charsWithin n t ≤ t.length
  | _, [] => Nat.le_refl _
  | n, c :: t => by
    rw [charsWithin]
    split
    · exact Nat.succ_le_succ (charsWithin_le_length _ t)
    · exact Nat.zero_le _

theorem bytes_take_charsWithin : ∀ (n : Nat) (t : Text), bytes (t.take (charsWithin n t)) ≤ n
  | _, [] => Nat.zero_le _
  | n, c :: t => by
    rw [charsWithin]
    split
    · have ih := bytes_take_charsWithin (n - c.utf8Size) t
      rw [List.take_succ_cons, bytes_cons]
      omega
    · exact Nat.zero_le _

theorem length_le_charsWithin (s : Text) : ∀ {n : Nat} (p : Text), bytes p ≤ n → p.length ≤ charsWithin n (p ++ s)
  | _, [], _ => Nat.zero_le _
  | n, c :: p, h => by
    rw [bytes_cons] at h
    have ih := length_le_charsWithin s (n := n - c.utf8Size) p (by omega)
    rw [List.cons_append, charsWithin, if_pos (by omega)]
    exact Nat.succ_le_succ ih

/-- **The last place at an offset or before it**, which an offset counts as. -/
theorem exists_floor (source : Text) (n : Nat) : ∃ p s, source = p ++ s ∧ p.bytes ≤ n ∧
    (∀ p' s', source = p' ++ s' → p'.bytes ≤ n → p'.bytes ≤ p.bytes) ∧ lineAt source n = lineAt source p.bytes := by
  have hsplit := (List.take_append_drop (charsWithin n source) source).symm
  refine ⟨_, _, hsplit, bytes_take_charsWithin n source, fun p' s' hs hn => ?_, ?_⟩
  · -- of two beginnings of a text the one with fewer characters has fewer bytes
    have hlen : p'.length ≤ charsWithin n source := hs ▸ length_le_charsWithin s' p' hn
    obtain ⟨w, hw⟩ : p' <+: source.take (charsWithin n source) :=
      List.prefix_take_iff.2 ⟨⟨s', hs.symm⟩, hlen⟩
    rw [← hw, bytes_append]
    exact Nat.le_add_right _ _
  · have hsame : charsWithin (bytes (source.take (charsWithin n source))) source = charsWithin n source := by
      have hat := charsWithin_bytes (source.drop (charsWithin n source)) (source.take (charsWithin n source))
      rwa [← hsplit, List.length_take, Nat.min_eq_left (charsWithin_le_length n source)] at hat
    simp only [lineAt, hsame]

end Text

/-! ## Counting forward -/

namespace Location

theorem advance_line : ∀ (t : Text) (l : Location), (l.advance t).line = l.line + t.count '\n'
  | [], _ => rfl
  | c :: t, l => by
    rw [advance_cons, advance_line t, advanceChar]
    by_cases hc : c = '\n'
    · rw [if_pos hc, hc, List.count_cons_self]
      exact Nat.add_right_comm ..
    · rw [if_neg hc, List.count_cons_of_ne hc]

theorem start_advance_column (name : String) (p : Text) :
    ((start name).advance p).column = 1 + (p.rtakeWhile Text.inLine).length := by
  induction p using List.reverseRecOn with
  | nil => rfl
  | append_singleton p c ih =>
    rw [advance_append, advance_cons, advance_nil, advanceChar, List.rtakeWhile_concat]
    by_cases hc : c = '\n'
    · rw [if_pos hc, if_neg (by rw [hc]; decide)]
      rfl
    · have hin : Text.inLine c = true := bne_iff_ne.2 hc
      rw [if_neg hc, if_pos hin, List.length_append]
      exact congrArg (· + 1) ih

end Location

namespace Diagnostic

open Text (OnLine Trims lineAt)

/-- **The caret points to the place of the error.**  Walking over a text before a place counts a line for each line feed
and a column for each character behind the last of them, and walking over two pieces in turn is walking over both
together.  What is shown of an error at the place is the piece of the text, between its line feeds, which has that number
and holds the place, without the carriage returns at its end; and below it a caret behind as many blanks as that piece
has characters before the place.  Any offset at all has a last place at it or before it, where the text can be cut, and
the line at the offset is the line of that place. -/
theorem caret_points_to_place (source : Text) (name : String) :
    (∀ (l : Location) (a b : Text), l.advance (a ++ b) = (l.advance a).advance b) ∧
    (∀ p s, source = p ++ s → ∀ kind message,
      let loc := (Location.start name).advance p
      loc.line = 1 + p.count '\n' ∧ loc.column = 1 + (p.rtakeWhile (· != '\n')).length ∧
        ∃ before u piece line, OnLine source p before u piece ∧ Trims piece line ∧ loc.line = before.length + 1 ∧
          (Diagnostic.mk kind loc message).caret source = line ++ '\n' :: List.replicate u.length ' ' ++ ['^']) ∧
    ∀ n, ∃ p s, source = p ++ s ∧ p.bytes ≤ n ∧
      (∀ p' s', source = p' ++ s' → p'.bytes ≤ n → p'.bytes ≤ p.bytes) ∧
      source.takeBytes? p.bytes = some p ∧ source.dropBytes? p.bytes = some s ∧
      ∃ before u piece, OnLine source p before u piece ∧ Trims piece (lineAt source n) := by
  refine ⟨Location.advance_append, ?_, fun n => ?_⟩
  · rintro p s rfl kind message
    have hline : ((Location.start name).advance p).line = 1 + p.count '\n' := Location.advance_line p _
    have hcolumn := Location.start_advance_column name p
    obtain ⟨before, u, piece, hon, htrims, hlength, hu⟩ := Text.exists_onLine p s
    refine ⟨hline, hcolumn, before, u, piece, _, hon, htrims, by rw [hline, hlength, Nat.add_comm], ?_⟩
    rw [caret, Location.start_advance_offset, hcolumn, ← hu, Nat.add_sub_cancel_left]
  · obtain ⟨p, s, rfl, hn, hlast, hline⟩ := Text.exists_floor source n
    obtain ⟨before, u, piece, hon, htrims, -, -⟩ := Text.exists_onLine p s
    exact ⟨p, s, rfl, hn, hlast, Text.takeBytes?_append p s, Text.dropBytes?_append p s, before, u, piece, hon,
      hline ▸ htrims⟩

/-- An error between two accented letters in the second of three lines, whose line feed follows carriage returns. -/
theorem caret_between_accents :
    let source : Text := "a\nñé\r\r\nb".toList
    let p : Text := "a\nñ".toList
    let loc := (Location.start "t").advance p
    let e : Diagnostic := ⟨.noRuleMatched, loc, ""⟩
    source = p ++ "é\r\r\nb".toList ∧ loc = ⟨4, 2, 2, "t"⟩ ∧ e.caret source = "ñé\n ^".toList ∧
      ∃ before u piece line, OnLine source p before u piece ∧ Trims piece line ∧ loc.line = before.length + 1 ∧
        e.caret source = line ++ '\n' :: List.replicate u.length ' ' ++ ['^'] := by
  intro source p loc e
  have hs : source = p ++ "é\r\r\nb".toList := by decide
  obtain ⟨-, hplace, -⟩ := caret_points_to_place source "t"
  obtain ⟨-, -, hcaret⟩ := hplace p _ hs .noRuleMatched ""
  exact ⟨hs, by decide, by decide, hcaret⟩

/-- An offset in the middle of a letter, and one beyond the end. -/
example : lineAt "a\nñé\r\r\nb".toList 5 = "ñé".toList ∧ lineAt "a\nñé\r\r\nb".toList 90 = "b".toList := by decide

end Diagnostic
end ModalLexer
