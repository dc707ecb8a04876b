/-!
# Pairs — openers and closers in a list

What it means that every closer in a list has an opener before it and every opener a closer behind it, when `R` says what
may stand between the two (`Matched`).
-/
namespace ModalLexer

variable {α : Type} {opens closes : α → Prop} {R : α → List α → α → Prop} {us vs before after : List α} {x o c : α}

/-- An element of two lists in turn stands in one or the other. -/
theorem append_eq_append_cons (h : us ++ vs = before ++ x :: after) :
    (∃ w, us = before ++ x :: w ∧ after = w ++ vs) ∨ ∃ w, before = us ++ w ∧ vs = w ++ x :: after := by
  rcases List.append_eq_append_iff.1 h with ⟨w, hbefore, hvs⟩ | ⟨w, hus, hafter⟩
  · exact .inr ⟨w, hbefore, hvs⟩
  · cases w with
    | nil => exact .inr ⟨[], by simpa using hus.symm, by simpa using hafter.symm⟩
    | cons y w =>
      obtain ⟨rfl, htail⟩ := List.cons.inj hafter
      exact .inl ⟨w, hus, htail⟩

/-- **Openers and closers are in pairs**, with `R` for the two and what stands between them. -/
structure Matched (opens closes : α → Prop) (R : α → List α → α → Prop) (l : List α) : Prop where
  opened : ∀ before c after, l = before ++ c :: after → closes c →
    ∃ pre o inner, before = pre ++ o :: inner ∧ opens o ∧ R o inner c
  closed : ∀ before o after, l = before ++ o :: after → opens o →
    ∃ inner c post, after = inner ++ c :: post ∧ closes c ∧ R o inner c

namespace Matched

theorem of_none (h : ∀ x ∈ us, ¬opens x ∧ ¬closes x) : Matched opens closes R us := by
  constructor
  · rintro before c after rfl hc
    exact absurd hc (h c (by simp)).2
  · rintro before o after rfl ho
    exact absurd ho (h o (by simp)).1

theorem single (ho : ¬opens x) (hc : ¬closes x) : Matched opens closes R [x] :=
  of_none fun _ hy => List.mem_singleton.1 hy ▸ ⟨ho, hc⟩

theorem append (h : Matched opens closes R us) (h' : Matched opens closes R vs) :
    Matched opens closes R (us ++ vs) := by
  constructor
  · intro before c after heq hc
    rcases append_eq_append_cons heq with ⟨w, hus, -⟩ | ⟨w, rfl, hvs⟩
    · exact h.opened before c w hus hc
    · obtain ⟨pre, o, inner, rfl, ho, hR⟩ := h'.opened w c after hvs hc
      exact ⟨us ++ pre, o, inner, by rw [List.append_assoc], ho, hR⟩
  · intro before o after heq ho
    rcases append_eq_append_cons heq with ⟨w, hus, rfl⟩ | ⟨w, -, hvs⟩
    · obtain ⟨inner, c, post, rfl, hc, hR⟩ := h.closed before o w hus ho
      exact ⟨inner, c, post ++ vs, by rw [List.append_assoc, List.cons_append], hc, hR⟩
    · exact h'.closed w o after hvs ho

/-- A pair around a list with nothing but pairs in it. -/
theorem enclose (h : Matched opens closes R us) (ho : opens o) (ho' : ¬closes o) (hc : closes c) (hc' : ¬opens c)
    (hR : R o us c) : Matched opens closes R (o :: us ++ [c]) := by
  constructor
  · intro before d after heq hd
    rcases append_eq_append_cons heq with ⟨w, hus, -⟩ | ⟨w, rfl, hw⟩
    · cases before with
      | nil =>
        obtain ⟨rfl, -⟩ := List.cons.inj hus
        exact absurd hd ho'
      | cons y before =>
        obtain ⟨rfl, htail⟩ := List.cons.inj hus
        obtain ⟨pre, o', inner, rfl, ho', hR'⟩ := h.opened before d w htail hd
        exact ⟨o :: pre, o', inner, rfl, ho', hR'⟩
    · cases w with
      | nil =>
        obtain ⟨rfl, -⟩ := List.cons.inj hw
        exact ⟨[], o, us, by simp, ho, hR⟩
      | cons y w => simp at hw
  · intro before d after heq hd
    rcases append_eq_append_cons heq with ⟨w, hus, rfl⟩ | ⟨w, -, hw⟩
    · cases before with
      | nil =>
        obtain ⟨rfl, rfl⟩ := List.cons.inj hus
        exact ⟨us, c, [], rfl, hc, hR⟩
      | cons y before =>
        obtain ⟨rfl, htail⟩ := List.cons.inj hus
        obtain ⟨inner, c', post, rfl, hc', hR'⟩ := h.closed before d w htail hd
        exact ⟨inner, c', post ++ [c], by rw [List.append_assoc, List.cons_append], hc', hR'⟩
    · cases w with
      | nil =>
        obtain ⟨rfl, -⟩ := List.cons.inj hw
        exact absurd hd hc'
      | cons y w => simp at hw

/-- One that opens is there exactly if one that closes is. -/
theorem exists_iff (h : Matched opens closes R us) : (∃ o ∈ us, opens o) ↔ ∃ c ∈ us, closes c := by
  constructor
  · rintro ⟨o, hmem, ho⟩
    obtain ⟨before, after, rfl⟩ := List.append_of_mem hmem
    obtain ⟨inner, c, post, rfl, hc, -⟩ := h.closed before o after rfl ho
    exact ⟨c, by simp, hc⟩
  · rintro ⟨c, hmem, hc⟩
    obtain ⟨before, after, rfl⟩ := List.append_of_mem hmem
    obtain ⟨pre, o, inner, rfl, ho, -⟩ := h.opened before c after rfl hc
    exact ⟨o, by simp, ho⟩

/-- Pairs stay when what is left out neither opens nor closes. -/
theorem filter {R' : α → List α → α → Prop} (h : Matched opens closes R us) (keep : α → Bool)
    (ho : ∀ x, opens x → keep x = true) (hc : ∀ x, closes x → keep x = true)
    (hR : ∀ o inner c, R o inner c → R' o (inner.filter keep) c) : Matched opens closes R' (us.filter keep) := by
  constructor
  · intro before c after heq hcloses
    obtain ⟨l, r, rfl, rfl, hr⟩ := List.filter_eq_append_iff.1 heq
    obtain ⟨gap, rest, rfl, hgap, -, rfl⟩ := List.filter_eq_cons_iff.1 hr
    obtain ⟨pre, o, inner, hl, hopens, hinner⟩ := h.opened (l ++ gap) c rest (by rw [List.append_assoc]) hcloses
    have hbefore : l.filter keep = (l ++ gap).filter keep := by
      rw [List.filter_append, List.filter_eq_nil_iff.2 hgap, List.append_nil]
    refine ⟨pre.filter keep, o, inner.filter keep, ?_, hopens, hR o inner c hinner⟩
    rw [hbefore, hl, List.filter_append, List.filter_cons_of_pos (ho o hopens)]
  · intro before o after heq hopens
    obtain ⟨l, r, rfl, -, hr⟩ := List.filter_eq_append_iff.1 heq
    obtain ⟨gap, rest, rfl, -, -, rfl⟩ := List.filter_eq_cons_iff.1 hr
    obtain ⟨inner, c, post, rfl, hcloses, hinner⟩ := h.closed (l ++ gap) o rest (by rw [List.append_assoc]) hopens
    refine ⟨inner.filter keep, c, post.filter keep, ?_, hcloses, hR o inner c hinner⟩
    rw [List.filter_append, List.filter_cons_of_pos (hc c hcloses)]

end Matched
end ModalLexer
