import ModalLexer.Proofs.Quotes
import ModalLexer.Proofs.Readings
/-!
# LogicalLines — the line of a directive

Two readings are about a preprocessor line.  It should be its logical line, which goes on to the end of the text, to a
line break without a backslash before it, or to a comment that begins outside of quotes (`logicalLine`).  The rule for it
has other items (`directive`), for its expression takes a slash or a backslash together with the character behind it.  So
it stops before a slash that ends the line and before a backslash that ends the text; and it misses a quote, a comment or
a continuation that begins with the character it took along.  Where nothing of that kind happens (`slips`), both readings
stop at the same place (`directive_stop`).
-/
namespace ModalLexer

/-! ## The two readings -/

/-- What is left where the reading behind a single quote stops, if an escape does not go over the end of a line. -/
def charStop : Text → Text
  | [] => []
  | ['\\'] => ['\\']
  | '\\' :: c :: t => if c = '\n' ∨ c = '\r' then '\\' :: c :: t else charStop t
  | c :: t => if c = '\'' ∨ c = '\n' ∨ c = '\r' then c :: t else charStop t

/-- **An item of a directive**, as its rule reads: a slash or a backslash goes with the character behind it. -/
def directiveItem : Text → Option Text
  | [] => none
  | '"' :: t => some ((closed? '"' (quotedStop '"' t)).getD t)
  | '\'' :: t => some ((closed? '\'' (charStop t)).getD t)
  | ['\\'] => none
  | '\\' :: '\r' :: '\n' :: t => some t
  | '\\' :: _ :: t => some t
  | ['/'] => none
  | '/' :: c :: t => if ['/', '*', '\n', '\r'].contains c then none else some t
  | c :: t => if c = '\n' ∨ c = '\r' then none else some t

/-- **An item of a logical line**: a quoted literal that is closed, a line break behind a backslash, or a character. -/
def lineItem : Text → Option Text
  | [] => none
  | '\\' :: '\r' :: '\n' :: t => some t
  | '\\' :: '\r' :: t => some t
  | '\\' :: '\n' :: t => some t
  | '/' :: '/' :: _ => none
  | '/' :: '*' :: _ => none
  | c :: t =>
    if c = '\n' ∨ c = '\r' then none
    else if c = '"' ∨ c = '\'' then some ((closed? c (quotedStop c t)).getD t)
    else some t

/-- A slash at the end of the line, or one, or a backslash, before what begins something itself; a backslash at the end of
the text; or a literal in single quotes that a continuation runs through. -/
def slips : Text → Bool
  | '/' :: t => t.head?.all ['\n', '\r', '"', '\'', '\\'].contains
  | '\\' :: t => t.head?.all ['"', '\'', '/', '\\'].contains
  | '\'' :: t => match charStop t with
    | '\\' :: _ :: _ => true
    | _ => false
  | _ => false

/-- The end of the text, a line break, or the opening of a comment. -/
def EndsLine (t : Text) : Prop :=
  t = [] ∨ t.head? = some '\n' ∨ t.head? = some '\r' ∨ ['/', '/'] <+: t ∨ ['/', '*'] <+: t

theorem charStop_eq (t : Text) : charStop t = (Reading.upTo '\'').stop t := by
  fun_induction charStop t with
  | case1 => rfl
  | case2 => exact (Reading.stop_of_none rfl).symm
  | case3 c t h => exact (Reading.stop_of_none (if_pos h)).symm
  | case4 c t h ih => exact ih.trans (Reading.stop_of_item (if_neg h)).symm
  | case5 c t hlast hescape h =>
    have hb : c ≠ '\\' := by rintro rfl; cases t <;> simp_all
    exact (Reading.stop_of_none ((Reading.upToItem_cons hb t).trans (if_pos h))).symm
  | case6 c t hlast hescape h ih =>
    have hb : c ≠ '\\' := by rintro rfl; cases t <;> simp_all
    exact ih.trans (Reading.stop_of_item ((Reading.upToItem_cons hb t).trans (if_neg h))).symm

def directive : Reading where
  item := directiveItem
  shorter := by
    intro t u h
    unfold directiveItem at h
    split at h
    · cases h
    · cases h
      exact ⟨_, _, rfl, closed?_getD_suffix (quotedStop_suffix _ _)⟩
    · cases h
      exact ⟨_, _, rfl, closed?_getD_suffix (charStop_eq _ ▸ Reading.stop_suffix _ _)⟩
    · cases h
    · cases h
      exact ⟨_, _, rfl, (List.suffix_cons _ _).trans (List.suffix_cons _ _)⟩
    · cases h
      exact ⟨_, _, rfl, List.suffix_cons _ _⟩
    · cases h
    · split at h
      · cases h
      · cases h
        exact ⟨_, _, rfl, List.suffix_cons _ _⟩
    · split at h
      · cases h
      · cases h
        exact ⟨_, _, rfl, List.suffix_refl _⟩

def logicalLine : Reading where
  item := lineItem
  shorter := by
    intro t u h
    unfold lineItem at h
    split at h
    · cases h
    · cases h
      exact ⟨_, _, rfl, (List.suffix_cons _ _).trans (List.suffix_cons _ _)⟩
    · cases h
      exact ⟨_, _, rfl, List.suffix_cons _ _⟩
    · cases h
      exact ⟨_, _, rfl, List.suffix_cons _ _⟩
    · cases h
    · cases h
    · split at h
      · cases h
      · split at h
        · cases h
          exact ⟨_, _, rfl, closed?_getD_suffix (quotedStop_suffix _ _)⟩
        · cases h
          exact ⟨_, _, rfl, List.suffix_refl _⟩

@[simp] theorem directive_item (t : Text) : directive.item t = directiveItem t := rfl

@[simp] theorem logicalLine_item (t : Text) : logicalLine.item t = lineItem t := rfl

theorem endsLine_of_none {t : Text} (h : lineItem t = none) : EndsLine t := by
  unfold lineItem at h
  split at h
  · exact .inl rfl
  · cases h
  · cases h
  · cases h
  · exact .inr (.inr (.inr (.inl (List.prefix_append ['/', '/'] _))))
  · exact .inr (.inr (.inr (.inr (List.prefix_append ['/', '*'] _))))
  · split at h
    · rename_i hn
      rcases hn with rfl | rfl
      · exact .inr (.inl rfl)
      · exact .inr (.inr (.inl rfl))
    · split at h <;> cases h

/-! ## Where the readings agree -/

section

variable {c : Char} {t u : Text}

theorem directiveItem_plain (hb : c ≠ '\\') (hs : c ≠ '/') (hq : ¬(c = '"' ∨ c = '\'')) (t : Text) :
    directiveItem (c :: t) = if c = '\n' ∨ c = '\r' then none else some t := by
  rw [directiveItem] <;> simp_all

theorem directiveItem_slash (c : Char) (t : Text) :
    directiveItem ('/' :: c :: t) = if ['/', '*', '\n', '\r'].contains c then none else some t := rfl

theorem directiveItem_backslash (h : c = '\r' → t.head? ≠ some '\n') : directiveItem ('\\' :: c :: t) = some t := by
  rw [directiveItem]
  rintro u rfl rfl
  exact h rfl rfl

theorem lineItem_plain (hb : c ≠ '\\') (hs : c ≠ '/') (hn : ¬(c = '\n' ∨ c = '\r')) (hq : ¬(c = '"' ∨ c = '\''))
    (t : Text) : lineItem (c :: t) = some t := by
  rw [lineItem] <;> simp_all

theorem lineItem_slash (h : ¬(c = '/' ∨ c = '*')) (t : Text) : lineItem ('/' :: c :: t) = some (c :: t) := by
  rw [lineItem] <;> simp_all

theorem lineItem_backslash (h : ¬(c = '\n' ∨ c = '\r')) (t : Text) : lineItem ('\\' :: c :: t) = some (c :: t) := by
  rw [lineItem] <;> simp_all

/-- **A reading behind a single quote** is like one behind any quote, unless it comes to an escape at the end of a
line. -/
theorem charStop_or (t : Text) : charStop t = quotedStop '\'' t ∨ (charStop t = ['\\'] ∧ quotedStop '\'' t = []) ∨
    ∃ c u, charStop t = '\\' :: c :: u := by
  fun_induction charStop t with
  | case1 => exact .inl rfl
  | case2 => exact .inr (.inl ⟨rfl, by decide⟩)
  | case3 c t => exact .inr (.inr ⟨c, t, rfl⟩)
  | case4 c t h ih =>
    rw [quotedStop_escape fun hr => absurd (.inr hr) h]
    exact ih
  | case5 c t hlast hescape h =>
    have hb : c ≠ '\\' := by rintro rfl; cases t <;> simp_all
    exact .inl (quotedStop_at hb h t).symm
  | case6 c t hlast hescape h ih =>
    have hb : c ≠ '\\' := by rintro rfl; cases t <;> simp_all
    rw [quotedStop_other hb h]
    exact ih

theorem closed?_charStop (h : slips ('\'' :: t) = false) :
    closed? '\'' (charStop t) = closed? '\'' (quotedStop '\'' t) := by
  rcases charStop_or t with hs | ⟨hs, hq⟩ | ⟨c, u, hs⟩
  · rw [hs]
  · rw [hs, hq]
    rfl
  · rw [slips, hs] at h
    cases h

/-- **Where no item slips, one item of the directive is one of the line or two.** -/
theorem item_agrees (h : slips t = false) : directiveItem t = lineItem t ∨
    ∃ u v, lineItem t = some u ∧ lineItem u = some v ∧ directiveItem t = some v := by
  rcases t with _ | ⟨c, t⟩
  · exact .inl rfl
  by_cases hq : c = '"' ∨ c = '\''
  · rcases hq with rfl | rfl
    · exact .inl rfl
    · left
      rw [directiveItem, closed?_charStop h]
      rfl
  by_cases hb : c = '\\'
  · subst hb
    rcases t with _ | ⟨d, t⟩
    · cases h
    have hplain : ¬(d = '"' ∨ d = '\'' ∨ d = '/' ∨ d = '\\') := by simpa [slips] using h
    by_cases hcrlf : d = '\r' ∧ t.head? = some '\n'
    · obtain ⟨rfl, hhead⟩ := hcrlf
      obtain ⟨u, rfl⟩ := List.head?_eq_some_iff.1 hhead
      exact .inl rfl
    rw [directiveItem_backslash fun hr hn => hcrlf ⟨hr, hn⟩]
    by_cases hn : d = '\n' ∨ d = '\r'
    · left
      rcases hn with rfl | rfl
      · rfl
      · rw [lineItem]
        rintro u rfl
        exact hcrlf ⟨rfl, rfl⟩
    · exact .inr ⟨d :: t, t, lineItem_backslash hn t, lineItem_plain (by tauto) (by tauto) hn (by tauto) t, rfl⟩
  by_cases hs : c = '/'
  · subst hs
    rcases t with _ | ⟨d, t⟩
    · cases h
    have hplain : ¬(d = '\n' ∨ d = '\r' ∨ d = '"' ∨ d = '\'' ∨ d = '\\') := by simpa [slips] using h
    rw [directiveItem_slash]
    by_cases hc : d = '/' ∨ d = '*'
    · left
      rcases hc with rfl | rfl <;> rfl
    · right
      refine ⟨d :: t, t, lineItem_slash hc t, lineItem_plain (by tauto) (by tauto) (by tauto) (by tauto) t, ?_⟩
      rw [if_neg]
      simp only [List.contains_cons, List.contains_nil, Bool.or_eq_true, beq_iff_eq, Bool.false_eq_true]
      tauto
  · left
    rw [directiveItem_plain hb hs hq]
    by_cases hn : c = '\n' ∨ c = '\r'
    · rw [if_pos hn]
      rcases hn with rfl | rfl <;> rfl
    · rw [if_neg hn, lineItem_plain hb hs hn hq]

/-- **Where nothing slips on its way, a directive is its logical line.** -/
theorem directive_stop : ∀ t : Text, (∀ u ∈ logicalLine.places t, slips u = false) →
    directive.stop t = logicalLine.stop t
  | t, h => by
    have hhere : slips t = false := by
      obtain ⟨us, hus⟩ := logicalLine.exists_places t
      exact h t (hus ▸ List.mem_cons_self)
    have hrest {t u : Text} (hu : logicalLine.item t = some u) (h : ∀ v ∈ logicalLine.places t, slips v = false) :
        ∀ v ∈ logicalLine.places u, slips v = false := by
      rw [Reading.places_of_item hu] at h
      exact fun v hv => h v (List.mem_cons_of_mem _ hv)
    have hagree := item_agrees hhere
    rw [← directive_item, ← logicalLine_item] at hagree
    rcases hagree with hsame | ⟨u, v, hu, hv, hd⟩
    · cases hi : logicalLine.item t with
      | none => rw [Reading.stop_of_none (hsame.trans hi), Reading.stop_of_none hi]
      | some u =>
        have := Reading.length_of_item hi
        rw [Reading.stop_of_item (hsame.trans hi), Reading.stop_of_item hi, directive_stop u (hrest hi h)]
    · rw [← logicalLine_item] at hv
      have := Reading.length_of_item hd
      rw [Reading.stop_of_item hd, Reading.stop_of_item hu, Reading.stop_of_item hv]
      exact directive_stop v (hrest hv (hrest hu h))
termination_by t => t.length

/-- A slash that is the last character of its line slips. -/
example : logicalLine.stop "a/\nb".toList = "\nb".toList ∧ directive.stop "a/\nb".toList = "/\nb".toList := by
  decide +kernel

end

/-! ## Lines without quotes and comments -/

/-- **A line with nothing in it** that could end it or go over its end. -/
structure PlainLine (d : Text) : Prop where
  plain : ∀ c ∈ d, c ∉ ['\n', '\r', '"', '\'', '\\']
  noLine : ¬['/', '/'] <:+: d
  noBlock : ¬['/', '*'] <:+: d
  noSlash : d.getLast? ≠ some '/'

namespace PlainLine

variable {c : Char} {d u : Text}

theorem tail (h : PlainLine (c :: d)) : PlainLine d where
  plain := fun c' hc' => h.plain c' (List.mem_cons_of_mem _ hc')
  noLine := fun hd => h.noLine (hd.trans (List.suffix_cons c d).isInfix)
  noBlock := fun hd => h.noBlock (hd.trans (List.suffix_cons c d).isInfix)
  noSlash := by
    intro hd
    refine h.noSlash ?_
    rw [List.getLast?_cons, hd]
    rfl

theorem not_slips (h : PlainLine d) : slips d = false := by
  rcases d with _ | ⟨c, d⟩
  · rfl
  have hc := h.plain c List.mem_cons_self
  simp only [List.mem_cons, List.not_mem_nil, or_false, not_or] at hc
  by_cases hs : c = '/'
  · subst hs
    rcases d with _ | ⟨e, d⟩
    · exact absurd rfl h.noSlash
    · have he := h.plain e (List.mem_cons_of_mem _ List.mem_cons_self)
      simp only [List.mem_cons, List.not_mem_nil, or_false, not_or] at he
      simp [slips, he]
  · rw [slips] <;> simp_all

/-- A plain line is read character by character. -/
theorem item (h : PlainLine (c :: d)) : lineItem (c :: d) = some d := by
  have hc := h.plain c List.mem_cons_self
  simp only [List.mem_cons, List.not_mem_nil, or_false, not_or] at hc
  by_cases hs : c = '/'
  · subst hs
    rcases d with _ | ⟨e, d⟩
    · exact absurd rfl h.noSlash
    · refine lineItem_slash ?_ d
      rintro (rfl | rfl)
      · exact h.noLine (List.prefix_append ['/', '/'] d).isInfix
      · exact h.noBlock (List.prefix_append ['/', '*'] d).isInfix
  · exact lineItem_plain hc.2.2.2.2 hs (by tauto) (by tauto) d

theorem places : ∀ {d : Text}, PlainLine d → ∀ u ∈ logicalLine.places d, slips u = false
  | [], h, u, hu => by
    rw [Reading.places_of_none rfl, List.mem_singleton] at hu
    exact hu ▸ h.not_slips
  | c :: d, h, u, hu => by
    rw [Reading.places_of_item (R := logicalLine) h.item, List.mem_cons] at hu
    rcases hu with rfl | hu
    · exact h.not_slips
    · exact h.tail.places u hu

theorem stop : ∀ {d : Text}, PlainLine d → logicalLine.stop d = []
  | [], _ => rfl
  | _ :: _, h => (Reading.stop_of_item (R := logicalLine) h.item).trans h.tail.stop

end PlainLine

end ModalLexer
