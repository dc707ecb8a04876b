import ModalLexer.Proofs.Declaring
/-!
# Defects — which builders are refused, and why

A builder with too many states is refused for that alone.  Any other is refused exactly if some rule has a defect, and
the error is that of the first defect of the first such rule (`build_names_first_defect`): a state that the rule is
restricted to and that nothing declares, then such a state to enter, then a fault of the pattern.  What is sound and
what is a defect is said of declarations (`RuleDraft.Sound`, `RuleDraft.Defect`); a state that a pattern names is never
one, since naming it declares it.  Everything here fails at the first fault and goes on before it, so each of its lists,
of names, of pieces and of rules, is read by `Foremost`.
-/
namespace ModalLexer

/-- **An element is bad, and all elements before it are good.** -/
def Foremost {α : Type} (good bad : α → Prop) (as : List α) : Prop :=
  ∃ before a after, as = before ++ a :: after ∧ (∀ x ∈ before, good x) ∧ bad a

/-! ## What is wrong with a declaration -/

namespace Fragments

/-- A piece whose reference, if it is one, may nest that deep. -/
def Shallow (fs : Fragments) (d : Nat) : Piece → Prop
  | .char _ => True
  | .reference _ body => ¬fs.Nests d body

/-- **Where expansion gives up** if references may nest `d` deep: the reference at the bottom of the first one that is
too deep, whose own first reference that is too deep is followed in turn. -/
def Overruns (fs : Fragments) : (d : Nat) → Text → Text → Prop
  | 0, t, name => ∃ ps, fs.Reads t ps ∧ Foremost (fs.Shallow 0) (fun p => ∃ body, p = .reference name body) ps
  | d + 1, t, name => ∃ ps, fs.Reads t ps ∧
      Foremost (fs.Shallow (d + 1)) (fun p => ∃ n body, p = .reference n body ∧ Overruns fs d body name) ps

end Fragments

namespace Shape

variable (read : Text → Option Regex) (fs : Fragments)

/-- A literal that is not empty, and an expression whose references do not nest too deep and which can be read when it
is expanded. -/
def Sound : Shape → Prop
  | literal t => t ≠ []
  | regex w => ¬fs.Nests (Fragments.maxDepth + 1) (Fragments.unprefixed w) ∧
      ∀ u, fs.Expands (Fragments.unprefixed w) u → (read (Builder.anchored u)).isSome
  | scan _ => True

/-- What is wrong with the pattern of a rule. -/
inductive Defect (rule : String) : Shape → TableError → Prop
  | literal : Defect rule (.literal []) (.emptyLiteral rule)
  | cycle {w name : Text} (h : fs.Overruns Fragments.maxDepth (Fragments.unprefixed w) name) :
      Defect rule (.regex w) (.cyclicFragment name)
  | pattern {w u : Text} (hd : ¬fs.Nests (Fragments.maxDepth + 1) (Fragments.unprefixed w))
      (hu : fs.Expands (Fragments.unprefixed w) u) (hr : read (Builder.anchored u) = none) :
      Defect rule (.regex w) (.invalidPattern rule)

end Shape

namespace RuleDraft

variable (read : Text → Option Regex) (fs : Fragments) (names : List String)

/-- The states that the rule is restricted to, by what was said of them last, are there. -/
def ScopeKnown (d : RuleDraft) : Prop := ∀ ns, d.scope? = some (.within ns) → ∀ n ∈ ns, n ∈ names

/-- The state that the rule enters, by what was said of it last, is there. -/
def TargetKnown (d : RuleDraft) : Prop := ∀ n, d.target? = some (.push n) → n ∈ names

/-- **A rule without defects.** -/
structure Sound (d : RuleDraft) : Prop where
  scope : d.ScopeKnown names
  target : d.TargetKnown names
  shape : d.shape.Sound read fs

/-- **The first defect of a rule.** -/
inductive Defect (d : RuleDraft) : TableError → Prop
  | within {before after : List String} {n : String} (hs : d.scope? = some (.within (before ++ n :: after)))
      (hb : ∀ m ∈ before, m ∈ names) (hn : n ∉ names) : Defect d (.unknownState n)
  | push {n : String} (hs : d.ScopeKnown names) (ht : d.target? = some (.push n)) (hn : n ∉ names) :
      Defect d (.unknownState n)
  | shape {e : TableError} (hs : d.ScopeKnown names) (ht : d.TargetKnown names) (h : d.shape.Defect read fs d.name e) :
      Defect d e

end RuleDraft

/-! ## Failing in turn -/

section

variable {α β ε : Type} {good bad : α → Prop} {a : α} {as : List α}

theorem not_foremost_nil : ¬Foremost good bad [] := by
  rintro ⟨before, a, after, h, -⟩
  simp at h

theorem foremost_cons : Foremost good bad (a :: as) ↔ bad a ∨ good a ∧ Foremost good bad as := by
  constructor
  · rintro ⟨_ | ⟨b, before⟩, c, after, h, hg, hb⟩
    · obtain ⟨rfl, -⟩ := List.cons.inj h
      exact .inl hb
    · obtain ⟨rfl, rfl⟩ := List.cons.inj h
      obtain ⟨ha, hg⟩ := List.forall_mem_cons.1 hg
      exact .inr ⟨ha, before, c, after, rfl, hg, hb⟩
  · rintro (hb | ⟨ha, before, c, after, rfl, hg, hb⟩)
    · exact ⟨[], a, as, rfl, by simp, hb⟩
    · exact ⟨a :: before, c, after, rfl, List.forall_mem_cons.2 ⟨ha, hg⟩, hb⟩

theorem foremost_congr {good' bad' : α → Prop} (hg : ∀ a ∈ as, good a ↔ good' a) (hb : ∀ a ∈ as, bad a ↔ bad' a) :
    Foremost good bad as ↔ Foremost good' bad' as := by
  refine exists_congr fun before => exists_congr fun a => exists_congr fun after => and_congr_right ?_
  rintro rfl
  refine and_congr ?_ (hb a (by simp))
  exact forall₂_congr fun x hx => hg x (List.mem_append_left _ hx)

variable {f : α → Except ε β} {e : ε}

theorem exists_mapM_iff : (∃ bs, as.mapM f = .ok bs) ↔ ∀ a ∈ as, ∃ b, f a = .ok b := by
  induction as with
  | nil => exact ⟨fun _ => by simp, fun _ => ⟨[], rfl⟩⟩
  | cons a as ih =>
    rw [List.mapM_cons, List.forall_mem_cons, ← ih]
    simp only [bind_eq_ok_iff]
    constructor
    · rintro ⟨-, b, hb, bs, hbs, -⟩
      exact ⟨⟨b, hb⟩, bs, hbs⟩
    · rintro ⟨⟨b, hb⟩, bs, hbs⟩
      exact ⟨b :: bs, b, hb, bs, hbs, rfl⟩

/-- **A list is gone through up to the first failure.** -/
theorem mapM_eq_error_iff :
    as.mapM f = .error e ↔ Foremost (fun a => ∃ b, f a = .ok b) (fun a => f a = .error e) as := by
  induction as with
  | nil => exact ⟨fun h => (by cases h), fun h => absurd h not_foremost_nil⟩
  | cons a as ih =>
    have hrest : ∀ b, (as.mapM f >>= fun bs => pure (b :: bs)) = .error e ↔ as.mapM f = .error e := by
      simp [bind_eq_error_iff, pure, Except.pure]
    rw [List.mapM_cons, bind_eq_error_iff, foremost_cons, ← ih]
    simp only [hrest, exists_and_right]

end

/-! ## Expansion -/

namespace Fragments

variable {fs : Fragments}

theorem exists_reads_iff {t : Text} {P : List Piece → Prop} : (∃ ps, fs.Reads t ps ∧ P ps) ↔ P (fs.pieces 0 t) := by
  constructor
  · rintro ⟨ps, hr, hp⟩
    rwa [← hr.eq_pieces]
  · exact fun hp => ⟨_, reads_pieces fs t, hp⟩

theorem exists_expandTo_iff {d : Nat} {t : Text} : (∃ u, fs.expandTo d t = .ok u) ↔ ¬fs.Nests (d + 1) t := by
  simp only [expandTo_eq_ok_iff, exists_and_left, and_iff_left_iff_imp]
  intro h
  obtain ⟨u, -, hu⟩ := expandTo_of_shallow d h
  exact ⟨u, hu⟩

theorem join_eq_error_iff {f : Text → Text → Except Text Text} {e : Text} {ps : List Piece} :
    join f ps = .error e ↔ Foremost (fun p => ∀ n body, p = .reference n body → ∃ v, f n body = .ok v)
      (fun p => ∃ n body, p = .reference n body ∧ f n body = .error e) ps := by
  induction ps with
  | nil => exact ⟨fun h => (by cases h), fun h => absurd h not_foremost_nil⟩
  | cons p ps ih =>
    rw [foremost_cons, ← ih]
    cases p with
    | char c => simp [join, map_eq_error_iff]
    | reference name body =>
      have hrest : ∀ v, ((join f ps >>= fun u => .ok ("(?:".toList ++ v ++ ')' :: u)) = .error e) ↔
          join f ps = .error e := by simp [bind_eq_error_iff]
      rw [join, bind_eq_error_iff]
      simp only [hrest, exists_and_right]
      simp

/-- **Expansion names the reference where it gives up.** -/
theorem expandTo_eq_error_iff {d : Nat} {t name : Text} : fs.expandTo d t = .error name ↔ fs.Overruns d t name := by
  induction d generalizing t with
  | zero =>
    rw [expandTo, join_eq_error_iff, Overruns, exists_reads_iff]
    refine foremost_congr (fun p _ => ?_) fun p _ => by simp [eq_comm]
    cases p <;> simp [Shallow, Nests]
  | succ d ih =>
    rw [expandTo, join_eq_error_iff, Overruns, exists_reads_iff]
    refine foremost_congr (fun p _ => ?_) fun p _ => by simp only [ih]
    cases p <;> simp [Shallow, exists_expandTo_iff]

end Fragments

/-! ## Rules -/

namespace Builder

variable {read : Text → Option Regex} {fs : Fragments} {states : List State} {first : State} {d : RuleDraft}
  {e : TableError}

theorem exists_compileShape_iff {rule : String} {shape : Shape} :
    (∃ ps, compileShape read fs rule shape = .ok ps) ↔ shape.Sound read fs := by
  simp only [Prod.exists, compileShape_eq_ok_iff]
  cases shape with
  | literal t =>
    constructor
    · rintro ⟨_, _, ⟨h⟩, -⟩
      exact h
    · exact fun h => ⟨_, _, .literal h, rfl⟩
  | regex w =>
    constructor
    · rintro ⟨_, _, h, -⟩
      cases h with
      | regex hd hu hr =>
        refine ⟨hd, fun u hu' => ?_⟩
        rw [hu'.unique hu, hr, Option.isSome_some]
    · rintro ⟨hd, hread⟩
      obtain ⟨u, -, hu⟩ := Fragments.expandTo_of_shallow Fragments.maxDepth hd
      obtain ⟨r, hr⟩ := Option.isSome_iff_exists.1 (hread u hu)
      exact ⟨_, _, .regex hd hu hr, rfl⟩
  | scan f => exact ⟨fun _ => trivial, fun _ => ⟨_, _, .scan f, rfl⟩⟩

theorem compileShape_eq_error_iff {rule : String} {shape : Shape} :
    compileShape read fs rule shape = .error e ↔ shape.Defect read fs rule e := by
  cases shape with
  | literal t =>
    constructor
    · intro h
      rw [compileShape] at h
      split at h
      · rename_i ht
        obtain rfl : t = [] := by simpa using ht
        cases h
        exact .literal
      · cases h
    · rintro ⟨⟩
      rfl
  | regex w =>
    rw [compileShape_expression]
    constructor
    · intro h
      split at h
      · rename_i n hn
        cases h
        exact .cycle (Fragments.expandTo_eq_error_iff.1 hn)
      · rename_i u hu
        obtain ⟨hd, hx⟩ := Fragments.expandTo_eq_ok_iff.1 hu
        split at h
        · cases h
        · rename_i hr
          cases h
          exact .pattern hd hx hr
    · intro h
      cases h with
      | cycle ho => simp only [Fragments.expand, Fragments.expandTo_eq_error_iff.2 ho]
      | pattern hd hx hr => simp only [Fragments.expand, Fragments.expandTo_eq_ok_iff.2 ⟨hd, hx⟩, hr]
  | scan f => exact ⟨fun h => (by cases h), fun h => (by cases h)⟩

theorem exists_resolve_iff {n : String} : (∃ q, resolve states n = .ok q) ↔ n ∈ states.map (·.name) := by
  constructor
  · rintro ⟨q, hq⟩
    obtain ⟨hmem, rfl⟩ := resolve_eq_ok hq
    exact List.mem_map_of_mem hmem
  · intro h
    cases hf : states.find? (·.name == n) with
    | none =>
      obtain ⟨q, hq, rfl⟩ := List.mem_map.1 h
      simpa using List.find?_eq_none.1 hf q hq
    | some q => exact ⟨q, by rw [resolve, hf]⟩

theorem resolve_eq_error_iff {n : String} :
    resolve states n = .error e ↔ n ∉ states.map (·.name) ∧ e = .unknownState n := by
  rw [← exists_resolve_iff]
  unfold resolve
  split <;> simp [eq_comm]

theorem exists_resolveTarget_iff :
    (∃ tr, resolveTarget states d.spec.target = .ok tr) ↔ d.TargetKnown (states.map (·.name)) := by
  rw [RuleDraft.spec_target, RuleDraft.TargetKnown]
  rcases d.target? with _ | _ | n | _
  · simp [resolveTarget]
  · simp [resolveTarget]
  · simp [resolveTarget, exists_map_iff, exists_resolve_iff]
  · simp [resolveTarget]

theorem resolveTarget_eq_error_iff : resolveTarget states d.spec.target = .error e ↔
    ∃ n, d.target? = some (.push n) ∧ n ∉ states.map (·.name) ∧ e = .unknownState n := by
  rw [RuleDraft.spec_target]
  rcases d.target? with _ | _ | n | _
  · simp [resolveTarget]
  · simp [resolveTarget]
  · simp [resolveTarget, map_eq_error_iff, resolve_eq_error_iff]
  · simp [resolveTarget]

section

variable (hp : ∀ n, d.Prefixed n → n ∈ states.map (·.name))
include hp

/-- Only the states of a restriction may be unknown, since the one that a pattern names is declared. -/
theorem resolveScope_cases :
    (∃ ns, d.scope? = some (.within ns) ∧
      resolveScope first states d.spec = (ns.mapM (resolve states)).map StateMask.ofList) ∨
    (∀ ns, d.scope? ≠ some (.within ns)) ∧ ∃ m, resolveScope first states d.spec = .ok m := by
  unfold resolveScope
  rw [RuleDraft.spec_scope, RuleDraft.spec_namedState?]
  cases hd : d.scope? with
  | none =>
    refine .inr ⟨by simp, ?_⟩
    cases hn : d.bare.namedState? with
    | none => exact ⟨_, rfl⟩
    | some n => exact exists_map_iff.2 (exists_resolve_iff.2 (hp n (RuleDraft.prefixed_iff.1 hn)))
  | some scope =>
    cases scope with
    | unrestricted => exact absurd hd d.scope?_ne_unrestricted
    | everywhere => exact .inr ⟨by simp, _, rfl⟩
    | within ns => exact .inl ⟨ns, rfl, rfl⟩

theorem exists_resolveScope_iff :
    (∃ m, resolveScope first states d.spec = .ok m) ↔ d.ScopeKnown (states.map (·.name)) := by
  rcases resolveScope_cases hp with ⟨ns, hd, hr⟩ | ⟨hd, m, hr⟩
  · rw [hr, exists_map_iff, exists_mapM_iff, RuleDraft.ScopeKnown, hd]
    simp only [exists_resolve_iff, Option.some.injEq, Scope.within.injEq, forall_eq']
  · exact ⟨fun _ ns h => absurd h (hd ns), fun _ => ⟨m, hr⟩⟩

theorem resolveScope_eq_error_iff : resolveScope first states d.spec = .error e ↔
    ∃ ns, d.scope? = some (.within ns) ∧
      Foremost (· ∈ states.map (·.name)) (fun n => n ∉ states.map (·.name) ∧ e = .unknownState n) ns := by
  rcases resolveScope_cases hp with ⟨ns, hd, hr⟩ | ⟨hd, m, hr⟩
  · rw [hr, map_eq_error_iff, mapM_eq_error_iff, hd]
    simp only [exists_resolve_iff, resolve_eq_error_iff, Option.some.injEq, Scope.within.injEq, exists_eq_left']
  · rw [hr]
    exact ⟨fun h => (by cases h), fun ⟨ns, h, _⟩ => absurd h (hd ns)⟩

/-- **A rule is compiled exactly if it has no defect.** -/
theorem exists_compile_iff :
    (∃ r, compile read fs first states d.spec = .ok r) ↔ d.Sound read fs (states.map (·.name)) := by
  obtain ⟨hname, hshape, -, -⟩ := RuleDraft.spec_keeps d
  constructor
  · rintro ⟨r, h⟩
    obtain ⟨hs, ht, hc, -, -⟩ := compile_ok h
    rw [hshape] at hc
    exact ⟨(exists_resolveScope_iff hp).1 ⟨_, hs⟩, exists_resolveTarget_iff.1 ⟨_, ht⟩,
      exists_compileShape_iff.1 ⟨_, hc⟩⟩
  · rintro ⟨hs, ht, hc⟩
    obtain ⟨m, hm⟩ := (exists_resolveScope_iff hp).2 hs
    obtain ⟨tr, htr⟩ := exists_resolveTarget_iff.2 ht
    obtain ⟨ps, hps⟩ := exists_compileShape_iff.2 hc
    rw [compile, hm, htr, hname, hshape, hps]
    exact ⟨_, rfl⟩

/-- **Compiling names the first defect.** -/
theorem compile_eq_error_iff :
    compile read fs first states d.spec = .error e ↔ d.Defect read fs (states.map (·.name)) e := by
  obtain ⟨hname, hshape, -, -⟩ := RuleDraft.spec_keeps d
  -- three stages, each of which is come to if those before it succeed
  have hstages : compile read fs first states d.spec = .error e ↔ resolveScope first states d.spec = .error e ∨
      (∃ m, resolveScope first states d.spec = .ok m) ∧ (resolveTarget states d.spec.target = .error e ∨
        (∃ tr, resolveTarget states d.spec.target = .ok tr) ∧ compileShape read fs d.name d.shape = .error e) := by
    rw [compile, hname, hshape]
    simp only [bind_eq_error_iff, reduceCtorEq, and_false, exists_false, or_false, exists_and_right]
  rw [hstages, resolveScope_eq_error_iff hp, exists_resolveScope_iff hp, resolveTarget_eq_error_iff,
    exists_resolveTarget_iff, compileShape_eq_error_iff]
  constructor
  · rintro (⟨-, hd, before, n, after, rfl, hb, hn, rfl⟩ | ⟨hs, ⟨n, hd, hn, rfl⟩ | ⟨ht, h⟩⟩)
    · exact .within hd hb hn
    · exact .push hs hd hn
    · exact .shape hs ht h
  · rintro (⟨hd, hb, hn⟩ | ⟨hs, hd, hn⟩ | ⟨hs, ht, h⟩)
    · exact .inl ⟨_, hd, _, _, _, rfl, hb, hn, rfl⟩
    · exact .inr ⟨hs, .inl ⟨_, hd, hn, rfl⟩⟩
    · exact .inr ⟨hs, .inr ⟨ht, h⟩⟩

end

/-- What is declared is compiled rule by rule, among states of those names. -/
theorem exists_buildWith_eq (read : Text → Option Regex) (initial : String) (ds : Declarations) :
    ∃ first states finish, states.map (·.name) = ds.names initial ∧
      (ofDeclarations initial ds).buildWith read = if 64 < (ds.names initial).length then .error .tooManyStates
        else ((ds.drafts initial).mapM fun d => compile read ds.fragments first states d.spec).map finish := by
  have hmade := made initial ds
  have hnames : ((ofDeclarations initial ds).declareNamed.states.1 ::
      (ofDeclarations initial ds).declareNamed.states.2).map (·.name) = ds.names initial := by
    rw [states_names, hmade.declareNamed.names, Declarations.names]
  have hbuild := buildWith_eq read (ofDeclarations initial ds)
  rw [← List.length_map, hnames, hmade.rules, hmade.fragments, List.mapM_map] at hbuild
  exact ⟨_, _, _, hnames, hbuild⟩

/-- **Builders are refused for their defects, and the first one is named**, however expressions are read.  Too many
states come first; else the error is that of the first defect of the first rule that has one. -/
theorem build_names_first_defect (read : Text → Option Regex) (initial : String) (ds : Declarations) :
    let result := (ofDeclarations initial ds).buildWith read
    let names := ds.names initial
    (result = .error .tooManyStates ↔ 64 < names.length) ∧
    (names.length ≤ 64 →
      ((∃ t, result = .ok t) ↔ ∀ d ∈ ds.drafts initial, d.Sound read ds.fragments names) ∧
      ∀ e, result = .error e ↔
        Foremost (RuleDraft.Sound read ds.fragments names) (RuleDraft.Defect read ds.fragments names · e)
          (ds.drafts initial)) := by
  intro result names
  obtain ⟨first, states, finish, hnames, hresult⟩ : ∃ first states finish, states.map (·.name) = names ∧
      result = if 64 < names.length then .error .tooManyStates
        else ((ds.drafts initial).mapM fun d => compile read ds.fragments first states d.spec).map finish :=
    exists_buildWith_eq read initial ds
  have hprefixed : ∀ d ∈ ds.drafts initial, ∀ n, d.Prefixed n → n ∈ states.map (·.name) := by
    intro d hd n hn
    rw [hnames]
    exact List.mem_eraseDups.2 (List.mem_append_right _ (List.mem_filterMap.2 ⟨d, hd, RuleDraft.prefixed_iff.2 hn⟩))
  by_cases hmany : 64 < names.length
  · rw [if_pos hmany] at hresult
    exact ⟨iff_of_true hresult hmany, fun hle => absurd hmany (Nat.not_lt.2 hle)⟩
  rw [if_neg hmany] at hresult
  have herror : ∀ e, result = .error e ↔ Foremost (RuleDraft.Sound read ds.fragments names)
      (RuleDraft.Defect read ds.fragments names · e) (ds.drafts initial) := by
    intro e
    rw [hresult, map_eq_error_iff, mapM_eq_error_iff, ← hnames]
    exact foremost_congr (fun d hd => exists_compile_iff (hprefixed d hd))
      fun d hd => compile_eq_error_iff (hprefixed d hd)
  refine ⟨⟨fun h => ?_, fun h => absurd h hmany⟩, fun _ => ⟨?_, herror⟩⟩
  · -- no rule is to blame for too many states
    obtain ⟨-, ⟨name, shape, kind, amendments⟩, -, -, -, hdefect⟩ := (herror _).1 h
    cases hdefect with
    | shape _ _ hshape => cases hshape
  · rw [hresult, exists_map_iff, exists_mapM_iff, ← hnames]
    exact forall₂_congr fun d hd => exists_compile_iff (hprefixed d hd)

end Builder

/-- A rule that is told to be elsewhere after all, one with two defects, and a state that only a pattern with a defect
names. -/
def Sample.defective : Declarations :=
  [.rule { name := "stray", shape := .literal ['a'], kind := .punctuator,
           amendments := [.within ["NOWHERE"], .within ["INNER"]] },
    .rule { name := "lost", shape := .literal [], kind := .punctuator, amendments := [.push "LOST"] },
    .rule { name := "loop", shape := .regex "<INNER>\x7ba\x7d".toList, kind := .identifier },
    .define "a" "\x7ba\x7d"]

/-- The second rule is the first that is wrong, and the state it enters is the first that is wrong with it. -/
theorem Builder.lost_state_named :
    (Sample.defective.names "DEFAULT").length ≤ 64 ∧
      (Builder.ofDeclarations "DEFAULT" Sample.defective).build = .error (.unknownState "LOST") ∧
      Foremost (RuleDraft.Sound Regex.ofText? Sample.defective.fragments (Sample.defective.names "DEFAULT"))
        (RuleDraft.Defect Regex.ofText? Sample.defective.fragments (Sample.defective.names "DEFAULT") ·
          (.unknownState "LOST")) (Sample.defective.drafts "DEFAULT") := by
  have hbuild : (Builder.ofDeclarations "DEFAULT" Sample.defective).build = .error (.unknownState "LOST") := rfl
  have hle : (Sample.defective.names "DEFAULT").length ≤ 64 := by decide
  obtain ⟨-, herror⟩ := (Builder.build_names_first_defect Regex.ofText? "DEFAULT" Sample.defective).2 hle
  exact ⟨hle, hbuild, (herror _).1 hbuild⟩

end ModalLexer
