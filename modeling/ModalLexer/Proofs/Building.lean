import Mathlib.Data.List.Forall2
import ModalLexer.Table.Builder
/-!
# Building — what a built table is made of

A built table has the rules that were declared, one by one and in their order (`build_ok`).  What a rule is, its pattern
apart, can be told from its declaration (`compile_ok`), so the rules of a table that are eligible in a state are found
among few declarations (`mem_rules_within`), and only theirs have to be compiled to know them.
-/
namespace ModalLexer

/-! ## Results and errors -/

section

variable {α β ε : Type} {x : Except ε α} {f : α → β} {g : α → Except ε β} {b : β} {e : ε}

theorem map_eq_ok_iff : x.map f = .ok b ↔ ∃ a, x = .ok a ∧ f a = b := by
  cases x <;> simp [Except.map]

theorem map_eq_error_iff : x.map f = .error e ↔ x = .error e := by
  cases x <;> simp [Except.map]

theorem exists_map_iff : (∃ b, x.map f = .ok b) ↔ ∃ a, x = .ok a := by
  cases x <;> simp [Except.map]

theorem bind_eq_ok_iff : x >>= g = .ok b ↔ ∃ a, x = .ok a ∧ g a = .ok b := by
  cases x <;> simp [bind, Except.bind]

theorem bind_eq_error_iff : x >>= g = .error e ↔ x = .error e ∨ ∃ a, x = .ok a ∧ g a = .error e := by
  cases x <;> simp [bind, Except.bind]

/-- What can be computed of a result says that there is one. -/
theorem exists_ok_of_any {p : α → Bool} (h : x.toOption.any p = true) : ∃ a, x = .ok a ∧ p a = true := by
  cases x with
  | error e => cases h
  | ok a => exact ⟨a, rfl, h⟩

end

/-- The expression that a declared pattern is compiled to, if it is one that can be read. -/
def Shape.regex? (fs : Fragments) : Shape → Option Regex
  | .regex w =>
    (fs.expand (((Fragments.splitState? w).map (·.2)).getD w)).toOption.bind fun e => Regex.ofText? (Builder.anchored e)
  | _ => none

namespace Builder

theorem forall₂_of_mapM {α β ε : Type} {f : α → Except ε β} : ∀ {as : List α} {bs : List β},
    as.mapM f = .ok bs → List.Forall₂ (fun a b => f a = .ok b) as bs
  | [], bs, h => by
    cases h
    exact .nil
  | a :: as, bs, h => by
    rw [List.mapM_cons] at h
    obtain ⟨b, ha, h⟩ := bind_eq_ok_iff.1 h
    obtain ⟨bs', has, h⟩ := bind_eq_ok_iff.1 h
    cases h
    exact .cons ha (forall₂_of_mapM has)

theorem exists_of_forall₂ {α β : Type} {R : α → β → Prop} {as : List α} {bs : List β}
    (h : List.Forall₂ R as bs) : ∀ a ∈ as, ∃ b ∈ bs, R a b := by
  induction h with
  | nil => intro a ha; cases ha
  | @cons a' b' as bs hab _ ih =>
    intro a ha
    rcases List.mem_cons.1 ha with rfl | ha
    · exact ⟨b', List.mem_cons_self, hab⟩
    · obtain ⟨b, hb, hr⟩ := ih a ha
      exact ⟨b, List.mem_cons_of_mem _ hb, hr⟩

variable {read : Text → Option Regex} {b : Builder} {t : Table} {r : RuleSpec} {rule : Rule} {q : State}
  {initial : State} {states : List State}

/-- The declarations of rules eligible in a state. -/
def specsIn (initial : State) (states : List State) (rules : List RuleSpec) (q : State) : List RuleSpec :=
  rules.filter fun r => match resolveScope initial states r with
    | .ok m => m.contains q
    | .error _ => false

theorem declare_keeps (b : Builder) (name : String) (balanced : Bool) :
    (b.declare name balanced).rules = b.rules ∧ (b.declare name balanced).fragments = b.fragments := by
  unfold declare
  split <;> exact ⟨rfl, rfl⟩

theorem declareNamed_keeps (b : Builder) :
    b.declareNamed.rules = b.rules ∧ b.declareNamed.fragments = b.fragments := by
  have fold : ∀ (names : List String) (b : Builder),
      (names.foldl (fun b name => b.declare name false) b).rules = b.rules ∧
        (names.foldl (fun b name => b.declare name false) b).fragments = b.fragments := by
    intro names
    induction names with
    | nil => intro b; exact ⟨rfl, rfl⟩
    | cons name names ih =>
      intro b
      obtain ⟨h1, h2⟩ := ih (b.declare name false)
      obtain ⟨h3, h4⟩ := declare_keeps b name false
      rw [List.foldl_cons]
      exact ⟨h1.trans h3, h2.trans h4⟩
  exact fold _ b

/-- **Building** declares the states that patterns name, counts the states, and then compiles rule by rule. -/
theorem buildWith_eq (read : Text → Option Regex) (b : Builder) :
    b.buildWith read =
      if TableError.maxStates < (b.declareNamed.states.1 :: b.declareNamed.states.2).length then .error .tooManyStates
      else (b.rules.mapM (compile read b.fragments b.declareNamed.states.1
          (b.declareNamed.states.1 :: b.declareNamed.states.2))).map fun rules =>
        ⟨b.declareNamed.states.1, b.declareNamed.states.2, rules, b.declareNamed.keywords⟩ := by
  obtain ⟨hrules, hfragments⟩ := declareNamed_keeps b
  unfold buildWith
  simp only [hrules, hfragments]
  split
  · exact (if_pos ‹_›).symm
  · rw [if_neg ‹_›]
    cases b.rules.mapM (compile read b.fragments b.declareNamed.states.1
      (b.declareNamed.states.1 :: b.declareNamed.states.2)) <;> rfl

/-- **A built table has the declared states and rules in their order**, however expressions are read. -/
theorem buildWith_ok (h : b.buildWith read = .ok t) :
    t.states = b.declareNamed.states.1 :: b.declareNamed.states.2 ∧
      List.Forall₂ (fun r rule => compile read b.fragments t.initial t.states r = .ok rule) b.rules t.rules := by
  rw [buildWith_eq] at h
  split at h
  · cases h
  · obtain ⟨rules, hm, rfl⟩ := map_eq_ok_iff.1 h
    exact ⟨rfl, forall₂_of_mapM hm⟩

theorem build_ok (h : b.build = .ok t) :
    t.states = b.declareNamed.states.1 :: b.declareNamed.states.2 ∧
      List.Forall₂ (fun r rule => compile Regex.ofText? b.fragments t.initial t.states r = .ok rule) b.rules t.rules :=
  buildWith_ok h

/-- **A built table numbers its states in their order.** -/
theorem getElem?_id (h : b.buildWith read = .ok t) (hq : q ∈ t.states) : t.states[q.id]? = some q := by
  rw [(buildWith_ok h).1] at hq ⊢
  rcases List.mem_cons.1 hq with rfl | hq
  · rfl
  · obtain ⟨e, he, rfl⟩ := List.mem_map.1 hq
    have hat := List.mem_zipIdx_iff_getElem?.1 he
    rw [List.getElem?_cons_succ, states, List.getElem?_map, List.getElem?_zipIdx, hat]
    simp

theorem states_length_le (h : b.buildWith read = .ok t) : t.states.length ≤ TableError.maxStates := by
  rw [(buildWith_ok h).1]
  rw [buildWith_eq] at h
  split at h
  · cases h
  · exact Nat.le_of_not_lt ‹_›

/-- **What is compiled of a declaration.** -/
theorem compile_eq_ok {fs : Fragments} (h : compile read fs initial states r = .ok rule) :
    ∃ mask transition ps, resolveScope initial states r = .ok mask ∧ resolveTarget states r.target = .ok transition ∧
      compileShape read fs r.name r.shape = .ok ps ∧
      rule = ⟨r.name, ps.1, r.kind, mask, transition, r.unterminated, ps.2⟩ := by
  obtain ⟨mask, hm, h⟩ := bind_eq_ok_iff.1 h
  obtain ⟨transition, ht, h⟩ := bind_eq_ok_iff.1 h
  obtain ⟨ps, hs, h⟩ := bind_eq_ok_iff.1 h
  cases h
  exact ⟨mask, transition, ps, hm, ht, hs, rfl⟩

/-- **What a rule has from its declaration.** -/
theorem compile_ok {fs : Fragments} (h : compile read fs initial states r = .ok rule) :
    resolveScope initial states r = .ok rule.mask ∧ resolveTarget states r.target = .ok rule.transition ∧
      compileShape read fs r.name r.shape = .ok (rule.pattern, rule.source) ∧ rule.kind = r.kind ∧
      rule.unterminated = r.unterminated := by
  obtain ⟨m, tr, ps, hm, ht, hs, rfl⟩ := compile_eq_ok h
  exact ⟨hm, ht, hs, rfl, rfl⟩

theorem compile_name {fs : Fragments} (h : compile read fs initial states r = .ok rule) : rule.name = r.name := by
  obtain ⟨m, tr, ps, -, -, -, rfl⟩ := compile_eq_ok h
  rfl

theorem mem_specsIn {rules : List RuleSpec} :
    r ∈ specsIn initial states rules q ↔
      r ∈ rules ∧ ∃ m, resolveScope initial states r = .ok m ∧ m.contains q = true := by
  rw [specsIn, List.mem_filter]
  cases resolveScope initial states r <;> simp

theorem compileShape_literal {fs : Fragments} {name : String} {l src : Text} {p : Pattern}
    (h : compileShape read fs name (.literal l) = .ok (p, src)) : p = .literal l := by
  rw [compileShape] at h
  split at h <;> cases h
  rfl

theorem compileShape_regex {fs : Fragments} {name : String} {w body e src : Text} {p : Pattern} {a : Regex}
    (hw : ((Fragments.splitState? w).map (·.2)).getD w = body) (he : fs.expand body = .ok e)
    (ha : read (anchored e) = some a) (h : compileShape read fs name (.regex w) = .ok (p, src)) :
    p = .regex (anchored e) a := by
  rw [compileShape] at h
  cases hs : Fragments.splitState? w with
  | none =>
    obtain rfl : w = body := by rw [hs] at hw; exact hw
    simp only [hs, he, ha, Except.ok.injEq, Prod.mk.injEq] at h
    exact h.1.symm
  | some r =>
    obtain rfl : r.2 = body := by rw [hs] at hw; exact hw
    simp only [hs, he, ha, Except.ok.injEq, Prod.mk.injEq] at h
    exact h.1.symm

theorem compileShape_regex? {fs : Fragments} {name : String} {s : Shape} {src : Text} {p : Pattern} {a : Regex}
    (ha : s.regex? fs = some a) (h : compileShape Regex.ofText? fs name s = .ok (p, src)) : ∃ w, p = .regex w a := by
  cases s with
  | literal l => cases ha
  | scan f => cases ha
  | regex w =>
    rw [Shape.regex?] at ha
    cases he : fs.expand (((Fragments.splitState? w).map (·.2)).getD w) with
    | error e =>
      rw [he] at ha
      cases ha
    | ok e =>
      rw [he] at ha
      exact ⟨_, compileShape_regex rfl he ha h⟩

theorem resolveTarget_push {target : Target} (h : resolveTarget states target = .ok (.push q)) :
    target = .push q.name ∧ states.find? (·.name == q.name) = some q := by
  cases target with
  | stay => cases h
  | pop => cases h
  | push name =>
    rw [resolveTarget, resolve] at h
    cases hf : states.find? (·.name == name) with
    | none => rw [hf] at h; cases h
    | some q' =>
      rw [hf] at h
      cases h
      have hname : q.name = name := by simpa using List.find?_some hf
      rw [hname]
      exact ⟨rfl, hf⟩

theorem mem_rules (h : b.build = .ok t) (hr : rule ∈ t.rules) :
    ∃ r ∈ b.rules, compile Regex.ofText? b.fragments t.initial t.states r = .ok rule := by
  have hflip : List.Forall₂ (flip fun r rule => compile Regex.ofText? b.fragments t.initial t.states r = .ok rule)
      t.rules b.rules := List.Forall₂.flip (build_ok h).2
  exact exists_of_forall₂ hflip rule hr

/-- **A rule stands in the place of its declaration.** -/
theorem exists_spec_at {i : Nat} (h : b.build = .ok t) (hr : t.rules[i]? = some rule) :
    ∃ r, b.rules[i]? = some r ∧ compile Regex.ofText? b.fragments t.initial t.states r = .ok rule := by
  obtain ⟨-, hrules⟩ := build_ok h
  obtain ⟨hi, rfl⟩ := List.getElem?_eq_some_iff.1 hr
  have hi' : i < b.rules.length := hrules.length_eq ▸ hi
  exact ⟨_, List.getElem?_eq_getElem hi', hrules.get hi' hi⟩

/-- **The rules eligible in a state** come from the declarations of such. -/
theorem mem_rules_within (h : b.build = .ok t) (hr : rule ∈ t.rules) (hq : rule.mask.contains q = true) :
    ∃ r ∈ specsIn t.initial t.states b.rules q, compile Regex.ofText? b.fragments t.initial t.states r = .ok rule := by
  obtain ⟨r, hmem, hc⟩ := mem_rules h hr
  exact ⟨r, mem_specsIn.2 ⟨hmem, _, (compile_ok hc).1, hq⟩, hc⟩

/-- **A declaration eligible in a state** makes a rule eligible there. -/
theorem exists_rule_within (h : b.build = .ok t) (hr : r ∈ specsIn t.initial t.states b.rules q) :
    ∃ rule ∈ t.rules, rule.mask.contains q = true ∧
      compile Regex.ofText? b.fragments t.initial t.states r = .ok rule := by
  obtain ⟨hmem, m, hm, hq⟩ := mem_specsIn.1 hr
  obtain ⟨rule, hrule, hc⟩ := exists_of_forall₂ (build_ok h).2 r hmem
  have hmask := (compile_ok hc).1
  rw [hm, Except.ok.injEq] at hmask
  exact ⟨rule, hrule, hmask ▸ hq, hc⟩

theorem exists_literal_within {l : Text} (h : b.build = .ok t)
    (hr : ∃ r ∈ specsIn t.initial t.states b.rules q, r.shape = .literal l) :
    ∃ rule ∈ t.rules, rule.mask.contains q = true ∧ rule.pattern = .literal l := by
  obtain ⟨r, hr, hs⟩ := hr
  obtain ⟨rule, hrule, hq, hc⟩ := exists_rule_within h hr
  obtain ⟨-, -, hshape, -, -⟩ := compile_ok hc
  rw [hs] at hshape
  exact ⟨rule, hrule, hq, compileShape_literal hshape⟩

/-- **A state that only one literal enters**, by the declarations, is entered by it alone. -/
theorem entered_by_literal {name : String} {l : Text} (h : b.build = .ok t)
    (hl : ∀ r ∈ b.rules, r.target = .push name → r.shape = .literal l)
    (hq : t.states.find? (·.name == name) = some q) :
    ∀ rule ∈ t.rules, ∀ q', rule.transition = .push q' → q'.name = name → q' = q ∧ rule.pattern = .literal l := by
  rintro rule hrule q' htr rfl
  obtain ⟨r, hr, hc⟩ := mem_rules h hrule
  obtain ⟨-, htarget, hshape, -, -⟩ := compile_ok hc
  rw [htr] at htarget
  obtain ⟨hpush, hfind⟩ := resolveTarget_push htarget
  rw [hq, Option.some.injEq] at hfind
  rw [hl r hr hpush] at hshape
  exact ⟨hfind.symm, compileShape_literal hshape⟩

end Builder

namespace Shape

instance (s : Shape) (t : Text) : Decidable (s = .literal t) :=
  match s with
  | .literal u => decidable_of_iff (u = t) (by simp)
  | .regex _ => isFalse (by simp)
  | .scan _ => isFalse (by simp)

instance (s : Shape) (t : Text) : Decidable (s = .regex t) :=
  match s with
  | .regex u => decidable_of_iff (u = t) (by simp)
  | .literal _ => isFalse (by simp)
  | .scan _ => isFalse (by simp)

end Shape
end ModalLexer
