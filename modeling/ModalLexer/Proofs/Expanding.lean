import Mathlib.Data.List.TakeWhile
import Mathlib.Logic.Relation
import ModalLexer.Table.Fragments
/-!
# Expanding — what a pattern stands for when its references are expanded

How a pattern is read from the left is said without counting characters (`Reads`): a backslash takes the next character
with it, braces around the name of a fragment are a reference, and all else stands for itself.  Expanding every
reference in full gives one text at most (`Spells.unique`), and none if some reference leads back to itself.  Expansion
to a depth gives that text where references do not nest deeper, and where they do it is refused
(`expandTo_of_deep`); so it ends on every list of fragments, and no cycle that a pattern can reach is let through
(`expansion_is_exact`).
-/
namespace ModalLexer
namespace Fragments

variable {fs : Fragments}

/-- **How a pattern is read** from the left. -/
inductive Reads (fs : Fragments) : Text → List Piece → Prop
  | nil : Reads fs [] []
  | escaped {t : Text} {ps : List Piece} (c : Char) (h : Reads fs t ps) :
      Reads fs ('\\' :: c :: t) (.char '\\' :: .char c :: ps)
  | reference {name body t : Text} {ps : List Piece} (hn : '\x7d' ∉ name) (hb : fs.lookup name = some body)
      (h : Reads fs t ps) : Reads fs ('\x7b' :: (name ++ '\x7d' :: t)) (.reference name body :: ps)
  /-- A character that neither takes the next one with it nor opens a reference. -/
  | plain {c : Char} {t : Text} {ps : List Piece} (he : c = '\\' → t = [])
      (hr : c = '\x7b' → ∀ name u, '\x7d' ∉ name → t = name ++ '\x7d' :: u → fs.lookup name = none)
      (h : Reads fs t ps) : Reads fs (c :: t) (.char c :: ps)

/-- **What pieces stand for** when every reference is expanded in full, however deep that goes. -/
inductive Spells (fs : Fragments) : List Piece → Text → Prop
  | nil : Spells fs [] []
  | char {ps : List Piece} {u : Text} (c : Char) (h : Spells fs ps u) : Spells fs (.char c :: ps) (c :: u)
  | reference {name body v u : Text} {qs ps : List Piece} (hr : Reads fs body qs) (hi : Spells fs qs v)
      (h : Spells fs ps u) : Spells fs (.reference name body :: ps) ("(?:".toList ++ v ++ ')' :: u)

/-- What a pattern stands for when every reference is expanded in full. -/
def Expands (fs : Fragments) (t u : Text) : Prop := ∃ ps, Reads fs t ps ∧ Spells fs ps u

/-- A pattern refers to a fragment. -/
def Refers (fs : Fragments) (t body : Text) : Prop := ∃ ps name, Reads fs t ps ∧ .reference name body ∈ ps

/-- References from a pattern into fragments, and from those into others, can be followed `n` times in turn. -/
def Nests (fs : Fragments) : (n : Nat) → Text → Prop
  | 0, _ => True
  | n + 1, t => ∃ body, fs.Refers t body ∧ Nests fs n body

/-! ## Reading -/

theorem reference?_eq_some {t name body : Text} :
    fs.reference? t = some (name, body) ↔ '\x7d' ∉ name ∧ fs.lookup name = some body ∧ ∃ u, t = name ++ '\x7d' :: u := by
  have hsplit := List.takeWhile_append_dropWhile (p := (· != '\x7d')) (l := t)
  unfold reference?
  constructor
  · intro h
    simp only at h
    split at h
    · rename_i hlt
      obtain ⟨b, hb, hnb⟩ := Option.map_eq_some_iff.1 h
      obtain ⟨rfl, rfl⟩ := Prod.mk.inj hnb
      refine ⟨fun hmem => by simpa using List.mem_takeWhile_imp hmem, hb, ?_⟩
      cases hd : t.dropWhile (· != '\x7d') with
      | nil =>
        rw [hd, List.append_nil] at hsplit
        rw [hsplit] at hlt
        exact absurd hlt (Nat.lt_irrefl _)
      | cons d u =>
        have hhead := List.head?_dropWhile_not (· != '\x7d') t
        rw [hd] at hhead
        obtain rfl : d = '\x7d' := by simpa using hhead
        exact ⟨u, by rw [← hd, hsplit]⟩
    · cases h
  · rintro ⟨hn, hb, u, rfl⟩
    have htake : (name ++ '\x7d' :: u).takeWhile (· != '\x7d') = name := by
      rw [List.takeWhile_append_of_pos fun c hc => bne_iff_ne.2 (ne_of_mem_of_not_mem hc hn)]
      simp
    simp [htake, hb]

theorem pieces_skip : ∀ (n : Nat) (t : Text), fs.pieces n t = fs.pieces 0 (t.drop n)
  | 0, _ => rfl
  | _ + 1, [] => rfl
  | n + 1, _ :: t => pieces_skip n t

theorem pieces_escaped (c : Char) (t : Text) :
    fs.pieces 0 ('\\' :: c :: t) = .char '\\' :: .char c :: fs.pieces 0 t := by
  simp [pieces]

theorem pieces_reference {t name body : Text} (h : fs.reference? t = some (name, body)) :
    fs.pieces 0 ('\x7b' :: t) = .reference name body :: fs.pieces 0 (t.drop (name.length + 1)) := by
  rw [pieces, if_pos rfl, h]
  · exact congrArg _ (pieces_skip _ t)
  · simp

theorem pieces_plain {c : Char} {t : Text} (he : c = '\\' → t = []) (hr : c = '\x7b' → fs.reference? t = none) :
    fs.pieces 0 (c :: t) = .char c :: fs.pieces 0 t := by
  rw [pieces]
  · split
    · rename_i h
      split at h
      · rename_i hc
        rw [hr hc] at h
        cases h
      · cases h
    · rfl
  · rintro d u rfl rfl
    cases he rfl

/-- **The pieces of a pattern are how it is read.** -/
theorem reads_pieces (fs : Fragments) : ∀ t : Text, Reads fs t (fs.pieces 0 t)
  | [] => .nil
  | c :: t => by
    by_cases he : c = '\\' ∧ t ≠ []
    · obtain ⟨rfl, hne⟩ := he
      obtain ⟨d, u, rfl⟩ := List.exists_cons_of_ne_nil hne
      rw [pieces_escaped]
      exact .escaped d (reads_pieces fs u)
    · have he : c = '\\' → t = [] := fun hc => Classical.not_not.1 fun hne => he ⟨hc, hne⟩
      cases hr : (if c = '\x7b' then fs.reference? t else none) with
      | some r =>
        obtain ⟨hc, hr⟩ := Option.ite_none_right_eq_some.1 hr
        obtain ⟨hn, hb, u, rfl⟩ := reference?_eq_some.1 hr
        have hdrop : (r.1 ++ '\x7d' :: u).drop (r.1.length + 1) = u := by simp
        rw [hc, pieces_reference hr, hdrop]
        exact .reference hn hb (reads_pieces fs u)
      | none =>
        have hr : c = '\x7b' → fs.reference? t = none := fun hc => by rwa [if_pos hc] at hr
        rw [pieces_plain he hr]
        refine .plain he (fun hc name u hn ht => ?_) (reads_pieces fs t)
        cases hb : fs.lookup name with
        | none => rfl
        | some body =>
          have hsome : fs.reference? t = some (name, body) := reference?_eq_some.2 ⟨hn, hb, u, ht⟩
          rw [hr hc] at hsome
          cases hsome
termination_by t => t.length
decreasing_by all_goals simp [*]; try omega

/-- **A pattern is read in one way.** -/
theorem Reads.eq_pieces {t : Text} {ps : List Piece} (h : Reads fs t ps) : ps = fs.pieces 0 t := by
  induction h with
  | nil => rfl
  | escaped c _ ih => rw [pieces_escaped, ih]
  | @reference name body t ps hn hb _ ih =>
    have hr := reference?_eq_some.2 ⟨hn, hb, t, rfl⟩
    rw [pieces_reference hr, ih]
    simp
  | @plain c t ps he hr _ ih =>
    have hnone : c = '\x7b' → fs.reference? t = none := by
      intro hc
      cases h : fs.reference? t with
      | none => rfl
      | some r =>
        obtain ⟨hn, hb, u, ht⟩ := reference?_eq_some.1 h
        rw [hr hc r.1 u hn ht] at hb
        cases hb
    rw [pieces_plain he hnone, ih]

theorem refers_iff {t body : Text} : fs.Refers t body ↔ ∃ name, .reference name body ∈ fs.pieces 0 t := by
  constructor
  · rintro ⟨ps, name, hr, hm⟩
    exact ⟨name, hr.eq_pieces ▸ hm⟩
  · rintro ⟨name, hm⟩
    exact ⟨_, name, reads_pieces fs t, hm⟩

/-! ## Full expansion -/

/-- **Pieces stand for one text at most.** -/
theorem Spells.unique {ps : List Piece} {u v : Text} (hu : Spells fs ps u) (hv : Spells fs ps v) : u = v := by
  induction hu generalizing v with
  | nil =>
    cases hv
    rfl
  | char c _ ih =>
    cases hv with
    | char _ hv => rw [ih hv]
  | reference hr _ _ ihi ih =>
    cases hv with
    | reference hr' hi' hv =>
      rw [hr.eq_pieces, ← hr'.eq_pieces] at ihi
      rw [ihi hi', ih hv]

theorem Expands.unique {t u v : Text} (hu : fs.Expands t u) (hv : fs.Expands t v) : u = v := by
  obtain ⟨ps, hr, hs⟩ := hu
  obtain ⟨qs, hr', hs'⟩ := hv
  rw [hr'.eq_pieces, ← hr.eq_pieces] at hs'
  exact hs.unique hs'

/-! ## Expansion to a depth -/

variable (f : Text → Text → Except Text Text)

/-- Joining succeeds where every reference is expanded. -/
theorem join_ok (fs : Fragments) : ∀ ps : List Piece,
    (∀ name body, .reference name body ∈ ps → ∃ v, f name body = .ok v ∧ fs.Expands body v) →
    ∃ u, join f ps = .ok u ∧ Spells fs ps u
  | [], _ => ⟨[], rfl, .nil⟩
  | .char c :: ps, h => by
    obtain ⟨u, hu, hs⟩ := join_ok fs ps fun name body hm => h name body (List.mem_cons_of_mem _ hm)
    exact ⟨c :: u, by rw [join, hu]; rfl, .char c hs⟩
  | .reference name body :: ps, h => by
    obtain ⟨v, hv, qs, hr, hi⟩ := h name body List.mem_cons_self
    obtain ⟨u, hu, hs⟩ := join_ok fs ps fun name body hm => h name body (List.mem_cons_of_mem _ hm)
    exact ⟨_, by rw [join, hv, hu]; rfl, .reference hr hi hs⟩

/-- Joining fails where a reference is refused. -/
theorem join_error {name body n : Text} (hf : f name body = .error n) :
    ∀ {ps : List Piece}, .reference name body ∈ ps → ∃ m, join f ps = .error m
  | .char c :: ps, hm => by
    obtain ⟨m, hj⟩ := join_error hf ((List.mem_cons.1 hm).resolve_left Piece.noConfusion)
    exact ⟨m, by rw [join, hj]; rfl⟩
  | .reference name' body' :: ps, hm => by
    rw [join]
    cases hf' : f name' body' with
    | error m => exact ⟨m, rfl⟩
    | ok v =>
      rcases List.mem_cons.1 hm with heq | hm
      · cases heq
        rw [hf] at hf'
        cases hf'
      · obtain ⟨m, hj⟩ := join_error hf hm
        exact ⟨m, by rw [hj]; rfl⟩

/-- **Where references nest no deeper, expansion to a depth is full expansion.** -/
theorem expandTo_of_shallow : ∀ (d : Nat) {t : Text}, ¬fs.Nests (d + 1) t →
    ∃ u, fs.expandTo d t = .ok u ∧ fs.Expands t u := by
  intro d
  induction d with
  | zero =>
    intro t h
    obtain ⟨u, hu, hs⟩ := join_ok (fun name _ => .error name) fs (fs.pieces 0 t)
      fun name body hm => absurd ⟨body, refers_iff.2 ⟨name, hm⟩, trivial⟩ h
    exact ⟨u, hu, _, reads_pieces fs t, hs⟩
  | succ d ih =>
    intro t h
    obtain ⟨u, hu, hs⟩ := join_ok (fun _ body => fs.expandTo d body) fs (fs.pieces 0 t)
      fun name body hm => ih fun hd => h ⟨body, refers_iff.2 ⟨name, hm⟩, hd⟩
    exact ⟨u, hu, _, reads_pieces fs t, hs⟩

/-- **Where references nest deeper, expansion to a depth is refused.** -/
theorem expandTo_of_deep : ∀ (d : Nat) {t : Text}, fs.Nests (d + 1) t → ∃ n, fs.expandTo d t = .error n := by
  intro d
  induction d with
  | zero =>
    rintro t ⟨body, hr, -⟩
    obtain ⟨name, hm⟩ := refers_iff.1 hr
    exact join_error (fun name _ => .error name) rfl hm
  | succ d ih =>
    rintro t ⟨body, hr, hd⟩
    obtain ⟨name, hm⟩ := refers_iff.1 hr
    obtain ⟨n, hn⟩ := ih hd
    exact join_error (fun _ body => fs.expandTo d body) hn hm

theorem expandTo_eq_ok_iff {d : Nat} {t u : Text} : fs.expandTo d t = .ok u ↔ ¬fs.Nests (d + 1) t ∧ fs.Expands t u := by
  by_cases hd : fs.Nests (d + 1) t
  · obtain ⟨n, hn⟩ := expandTo_of_deep d hd
    simp [hn, hd]
  · obtain ⟨v, hv, hx⟩ := expandTo_of_shallow d hd
    rw [hv, Except.ok.injEq]
    exact ⟨fun h => ⟨hd, h ▸ hx⟩, fun h => hx.unique h.2⟩

/-- **From where a cycle can be reached, references nest to every depth.** -/
theorem nests_of_cycle {body : Text} (hc : Relation.TransGen fs.Refers body body) :
    ∀ (n : Nat) {t : Text}, Relation.ReflTransGen fs.Refers t body → fs.Nests n t
  | 0, _, _ => trivial
  | n + 1, t, h => by
    have hpath : Relation.TransGen fs.Refers t body := Relation.TransGen.trans_right h hc
    obtain ⟨b, hr, hb⟩ := Relation.TransGen.head'_iff.1 hpath
    exact ⟨b, hr, nests_of_cycle hc n hb⟩

/-- **Expansion is exact.**  It is refused exactly where references can be followed more than `maxDepth` times in turn,
and so wherever a cycle of them can be reached.  Otherwise it gives the one text that the pattern stands for when every
reference is expanded in full. -/
theorem expansion_is_exact (fs : Fragments) (t : Text) :
    ((∃ name, fs.expand t = .error name) ↔ fs.Nests (maxDepth + 1) t) ∧
    (∀ u, fs.expand t = .ok u ↔ ¬fs.Nests (maxDepth + 1) t ∧ fs.Expands t u) ∧
    ∀ body, Relation.ReflTransGen fs.Refers t body → Relation.TransGen fs.Refers body body →
      ∃ name, fs.expand t = .error name := by
  by_cases hd : fs.Nests (maxDepth + 1) t
  · obtain ⟨n, hn⟩ := expandTo_of_deep maxDepth hd
    have hn : fs.expand t = .error n := hn
    rw [hn]
    refine ⟨⟨fun _ => hd, fun _ => ⟨n, rfl⟩⟩, fun u => ⟨fun h => (by cases h), fun h => absurd hd h.1⟩, ?_⟩
    exact fun _ _ _ => ⟨n, rfl⟩
  · obtain ⟨v, hv, hx⟩ := expandTo_of_shallow maxDepth hd
    have hv : fs.expand t = .ok v := hv
    rw [hv]
    refine ⟨⟨fun ⟨n, h⟩ => (by cases h), fun h => absurd h hd⟩, fun u => ⟨?_, ?_⟩, fun body hp hc => ?_⟩
    · rintro h
      cases h
      exact ⟨hd, hx⟩
    · rintro ⟨-, hu⟩
      rw [hx.unique hu]
    · exact absurd (nests_of_cycle hc _ hp) hd

/-- Two fragments that refer to each other, and a pattern that refers to one of them. -/
theorem mutual_references_refused :
    let fs : Fragments := [("b".toList, "x\x7ba\x7d".toList), ("a".toList, "\x7bb\x7d".toList)]
    fs.Refers "[\x7ba\x7d]".toList "\x7bb\x7d".toList ∧
      Relation.TransGen fs.Refers "\x7bb\x7d".toList "\x7bb\x7d".toList ∧
      ∃ name, fs.expand "[\x7ba\x7d]".toList = .error name := by
  intro fs
  have hfirst : fs.Refers "[\x7ba\x7d]".toList "\x7bb\x7d".toList := refers_iff.2 ⟨"a".toList, by decide⟩
  have hthere : fs.Refers "\x7bb\x7d".toList "x\x7ba\x7d".toList := refers_iff.2 ⟨"b".toList, by decide⟩
  have hback : fs.Refers "x\x7ba\x7d".toList "\x7bb\x7d".toList := refers_iff.2 ⟨"a".toList, by decide⟩
  have hcycle : Relation.TransGen fs.Refers "\x7bb\x7d".toList "\x7bb\x7d".toList := .tail (.single hthere) hback
  obtain ⟨-, -, hrefused⟩ := expansion_is_exact fs "[\x7ba\x7d]".toList
  exact ⟨hfirst, hcycle, hrefused _ (.single hfirst) hcycle⟩

end Fragments
end ModalLexer
