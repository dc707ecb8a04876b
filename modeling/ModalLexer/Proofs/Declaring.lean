import Mathlib.Data.List.Induction
import Mathlib.Data.List.Nodup
import ModalLexer.Table.Declarations
import ModalLexer.Proofs.Building
import ModalLexer.Proofs.Expanding
/-!
# Declaring — a built table means what its builder was told

What a table should be can be told from the declarations alone: the names of states in the order in which they first
appear, those that patterns name behind the others (`Declarations.names`), the rules in their order
(`Declarations.drafts`), and of each rule the last that was said of its states and of its transition.  `Made` is what a
builder holds of that while it is told one declaration after another; building only numbers the states and looks names
up, so a built table holds it too (`table_means_declarations`).
-/
namespace ModalLexer

/-! ## What declarations say -/

namespace Amendment

def scope? : Amendment → Option Scope
  | within states => some (.within states)
  | everywhere => some .everywhere
  | _ => none

def target? : Amendment → Option Target
  | push state => some (.push state)
  | pop => some .pop
  | _ => none

end Amendment

/-- The pattern behind the state that it names, if it names one. -/
def Fragments.unprefixed (w : Text) : Text :=
  match splitState? w with
  | some (_, rest) => rest
  | none => w

namespace RuleDraft

/-- The last that is said of the states of a rule. -/
def scope? (d : RuleDraft) : Option Scope := (d.amendments.filterMap Amendment.scope?).getLast?

/-- The last that is said of the transition of a rule. -/
def target? (d : RuleDraft) : Option Target := (d.amendments.filterMap Amendment.target?).getLast?

/-- The pattern begins with the name of a state between angle brackets. -/
def Prefixed (d : RuleDraft) (state : String) : Prop :=
  ∃ rest, d.shape = .regex ('<' :: (state.toList ++ '>' :: rest)) ∧ state ≠ "" ∧
    ∀ c ∈ state.toList, Fragments.isStateChar c = true

/-- **Where a rule is eligible**: everywhere or in certain states, whichever was said last; if neither was said, in the
state that its pattern names, and in the initial one if it names none. -/
def Covers (d : RuleDraft) (initial state : String) : Prop :=
  d.scope? = some .everywhere ∨ (∃ names, d.scope? = some (.within names) ∧ state ∈ names) ∨
    (d.scope? = none ∧ d.Prefixed state) ∨ (d.scope? = none ∧ (∀ s, ¬d.Prefixed s) ∧ state = initial)

def punctuator (states : List String) (text : String) : RuleDraft :=
  { name := text, shape := .literal text.toList, kind := .punctuator, amendments := [.within states] }

end RuleDraft

namespace Declaration

/-- The state that is declared. -/
def state? : Declaration → Option String
  | state name => some name
  | balancedState name => some name
  | _ => none

def fragment? : Declaration → Option (Text × Text)
  | define name pattern => some (name.toList, pattern.toList)
  | _ => none

/-- The rules that are declared, in their order. -/
def drafts (initial : String) : Declaration → List RuleDraft
  | rule r => [r]
  | rules rs => rs
  | punctuators texts => texts.map (RuleDraft.punctuator [initial])
  | punctuatorsWithin texts states => texts.map (RuleDraft.punctuator states)
  | _ => []

end Declaration

namespace Declarations

def drafts (ds : Declarations) (initial : String) : List RuleDraft := ds.flatMap (Declaration.drafts initial)

/-- The latest definition first. -/
def fragments (ds : Declarations) : Fragments := (ds.filterMap Declaration.fragment?).reverse

/-- The initial state and those declared by name, as often as they are. -/
def states (ds : Declarations) (initial : String) : List String := initial :: ds.filterMap Declaration.state?

/-- The states that patterns name, as often as they do. -/
def prefixes (ds : Declarations) (initial : String) : List String :=
  (ds.drafts initial).filterMap fun d => d.bare.namedState?

/-- **The names of the states**, each where it first appears. -/
def names (ds : Declarations) (initial : String) : List String := (ds.states initial ++ ds.prefixes initial).eraseDups

end Declarations

/-- **The pattern that a shape stands for**, given how expressions are read. -/
inductive Shape.Denotes (read : Text → Option Regex) (fs : Fragments) : Shape → Pattern → Prop
  | literal {t : Text} (h : t ≠ []) : Denotes read fs (.literal t) (.literal t)
  | regex {w u : Text} {r : Regex} (hd : ¬fs.Nests (Fragments.maxDepth + 1) (Fragments.unprefixed w))
      (hu : fs.Expands (Fragments.unprefixed w) u) (hr : read (Builder.anchored u) = some r) :
      Denotes read fs (.regex w) (.regex (Builder.anchored u) r)
  | scan (f : Recogniser) : Denotes read fs (.scan f) (.scan f)

/-- A shape as it is shown. -/
def Shape.source : Shape → Text
  | literal t => t
  | regex w => w
  | scan _ => "<scan>".toList

namespace Table

/-- What happens to the stack after a match, by what was said of it last. -/
def Follows (t : Table) : Option Target → Transition → Prop
  | some (.push name), tr => ∃ q ∈ t.states, q.name = name ∧ tr = .push q
  | some .pop, tr => tr = .pop
  | _, tr => tr = .stay

/-- **The `i`-th rule is what was said of it.** -/
structure Realises (t : Table) (read : Text → Option Regex) (fs : Fragments) (initial : String) (i : Nat)
    (d : RuleDraft) (r : Rule) : Prop where
  name : r.name = d.name
  kind : r.kind = d.kind
  pattern : d.shape.Denotes read fs r.pattern
  source : r.source = d.shape.source
  unterminated : r.unterminated = true ↔ .unclosed ∈ d.amendments
  eligible : ∀ q ∈ t.states, (r, i) ∈ t.eligible q ↔ d.Covers initial q.name
  transition : t.Follows d.target? r.transition

/-- **A table is what its declarations say**: its states have the names that were declared, in their order and each
once, and its rules are those that were declared, in their order. -/
structure Means (t : Table) (read : Text → Option Regex) (initial : String) (ds : Declarations) : Prop where
  names : t.states.map (·.name) = ds.names initial
  nodup : (t.states.map (·.name)).Nodup
  length_le : 1 ≤ t.states.length ∧ t.states.length ≤ 64
  bottom : t.initial.name = initial ∧ t.initial.id = 0
  /-- A state is found by its name, and its number is its place. -/
  numbered : ∀ (i : Nat) (q : State), t.states[i]? = some q → q.id = i ∧ t.state? q.name = some q
  balanced : ∀ q ∈ t.states, q.balanced = true ↔ .balancedState q.name ∈ ds
  length : t.rules.length = (ds.drafts initial).length
  rules : ∀ (i : Nat) (d : RuleDraft) (r : Rule), (ds.drafts initial)[i]? = some d → t.rules[i]? = some r →
    t.Realises read ds.fragments initial i d r

end Table

/-! ## Rules -/

theorem Fragments.splitState?_eq_some_iff {t name rest : Text} :
    splitState? t = some (name, rest) ↔
      t = '<' :: (name ++ '>' :: rest) ∧ name ≠ [] ∧ ∀ c ∈ name, isStateChar c = true := by
  constructor
  · intro h
    unfold splitState? at h
    split at h
    · rename_i u
      have hsplit := List.takeWhile_append_dropWhile (p := (· != '>')) (l := u)
      cases hd : u.dropWhile (· != '>') with
      | nil => simp [hd] at h
      | cons c rest' =>
        have hc := List.head?_dropWhile_not (· != '>') u
        rw [hd] at h hc hsplit
        obtain rfl : c = '>' := by simpa using hc
        simp only [Option.ite_none_right_eq_some, Bool.and_eq_true, Option.some.injEq, Prod.mk.injEq,
          List.all_eq_true] at h
        obtain ⟨⟨hne, hall⟩, rfl, rfl⟩ := h
        exact ⟨by rw [hsplit], by simpa using hne, hall⟩
    · cases h
  · rintro ⟨rfl, hne, hall⟩
    have hnot : ∀ c ∈ name, (c != '>') = true := by
      intro c hc
      refine bne_iff_ne.2 ?_
      rintro rfl
      exact absurd (hall _ hc) (by decide)
    have htake : (name ++ '>' :: rest).takeWhile (· != '>') = name := by
      rw [List.takeWhile_append_of_pos hnot]
      simp
    have hdrop : (name ++ '>' :: rest).dropWhile (· != '>') = '>' :: rest := by
      rw [List.dropWhile_append_of_pos hnot]
      simp
    simp [splitState?, htake, hdrop, hne, List.all_eq_true.2 hall]

namespace RuleDraft

variable {d : RuleDraft}

theorem prefixed_iff {state : String} : d.bare.namedState? = some state ↔ d.Prefixed state := by
  unfold RuleSpec.namedState? Prefixed bare
  cases hs : d.shape with
  | literal t => simp
  | scan f => simp
  | regex w =>
    simp only [Option.map_eq_some_iff, Shape.regex.injEq]
    constructor
    · rintro ⟨⟨name, rest⟩, hsplit, rfl⟩
      obtain ⟨rfl, hne, hall⟩ := Fragments.splitState?_eq_some_iff.1 hsplit
      refine ⟨rest, by rw [String.toList_ofList], fun h => hne ?_, by rwa [String.toList_ofList]⟩
      rw [← String.toList_ofList (l := name), h]
      rfl
    · rintro ⟨rest, rfl, hne, hall⟩
      refine ⟨(state.toList, rest), Fragments.splitState?_eq_some_iff.2 ⟨rfl, fun h => hne ?_, hall⟩, ?_⟩
      · rw [← String.ofList_toList (s := state), h]
      · exact String.ofList_toList

/-- A field that some amendments set holds what the last of them set. -/
theorem foldl_amend {β : Type} (field : RuleSpec → β) (set? : Amendment → Option β)
    (h : ∀ r a, field (r.amend a) = (set? a).getD (field r)) : ∀ (as : List Amendment) (r : RuleSpec),
      field (as.foldl RuleSpec.amend r) = ((as.filterMap set?).getLast?).getD (field r)
  | [], _ => rfl
  | a :: as, r => by
    rw [List.foldl_cons, foldl_amend field set? h as, h]
    cases ha : set? a with
    | none => rw [List.filterMap_cons_none ha, Option.getD_none]
    | some x => rw [List.filterMap_cons_some ha, List.getLast?_cons, Option.getD_some, Option.getD_some]

theorem spec_scope (d : RuleDraft) : d.spec.scope = d.scope?.getD .unrestricted :=
  foldl_amend (·.scope) Amendment.scope? (fun _ a => by cases a <;> rfl) d.amendments d.bare

theorem spec_target (d : RuleDraft) : d.spec.target = d.target?.getD .stay :=
  foldl_amend (·.target) Amendment.target? (fun _ a => by cases a <;> rfl) d.amendments d.bare

theorem foldl_amend_keeps : ∀ (as : List Amendment) (r : RuleSpec),
    (as.foldl RuleSpec.amend r).name = r.name ∧ (as.foldl RuleSpec.amend r).shape = r.shape ∧
      (as.foldl RuleSpec.amend r).kind = r.kind ∧
      ((as.foldl RuleSpec.amend r).unterminated = true ↔ r.unterminated = true ∨ .unclosed ∈ as)
  | [], _ => by simp
  | a :: as, r => by
    obtain ⟨hname, hshape, hkind, hu⟩ := foldl_amend_keeps as (r.amend a)
    rw [List.foldl_cons, hname, hshape, hkind, hu]
    cases a <;>
      simp [RuleSpec.amend, RuleSpec.within, RuleSpec.everywhere, RuleSpec.push, RuleSpec.pop, RuleSpec.unclosed]

theorem spec_keeps (d : RuleDraft) : d.spec.name = d.name ∧ d.spec.shape = d.shape ∧ d.spec.kind = d.kind ∧
    (d.spec.unterminated = true ↔ .unclosed ∈ d.amendments) := by
  obtain ⟨hname, hshape, hkind, hu⟩ := foldl_amend_keeps d.amendments d.bare
  exact ⟨hname, hshape, hkind, by rw [spec, hu]; simp [bare]⟩

theorem spec_namedState? (d : RuleDraft) : d.spec.namedState? = d.bare.namedState? := by
  unfold RuleSpec.namedState?
  rw [(spec_keeps d).2.1]
  rfl

theorem scope?_ne_unrestricted (d : RuleDraft) : d.scope? ≠ some .unrestricted := by
  intro h
  obtain ⟨a, -, ha⟩ := List.mem_filterMap.1 (List.mem_of_getLast? h)
  cases a <;> cases ha

end RuleDraft

/-! ## States -/

section

variable (ns : List String) (n : String)

theorem eraseDups_concat : (ns ++ [n]).eraseDups = if n ∈ ns then ns.eraseDups else ns.eraseDups ++ [n] := by
  rw [List.eraseDups_append]
  by_cases h : n ∈ ns
  · rw [if_pos h, List.removeAll, List.filter_cons_of_neg (by simpa using h)]
    exact List.append_nil _
  · rw [if_neg h, List.removeAll, List.filter_cons_of_pos (by simpa using h)]
    rfl

theorem nodup_eraseDups : ns.eraseDups.Nodup := by
  induction ns using List.reverseRecOn with
  | nil => exact List.nodup_nil
  | append_singleton ns n ih =>
    rw [eraseDups_concat]
    split
    · exact ih
    · rename_i h
      refine List.nodup_append.2 ⟨ih, by simp, fun a ha b hb => ?_⟩
      rw [List.mem_singleton.1 hb]
      exact fun hn => h (hn ▸ List.mem_eraseDups.1 ha)

end

namespace Builder

variable {b : Builder} {ns : List String} {P : String → Prop} {initial : String} {ds : Declarations} {t : Table}

/-- The states of a builder are those names, each where it first appears, and the balanced ones are those that `P`
holds of. -/
structure Declares (ns : List String) (P : String → Prop) (b : Builder) : Prop where
  names : b.specs.map (·.name) = ns.eraseDups
  balanced : ∀ s ∈ b.specs, s.balanced = true ↔ P s.name
  known : ∀ n, P n → n ∈ ns

theorem StateSpec.mark_name (name : String) (balanced : Bool) (s : StateSpec) :
    (StateSpec.mark name balanced s).name = s.name := by
  unfold mark
  split <;> rfl

theorem StateSpec.mark_balanced {name : String} {balanced : Bool} {s : StateSpec} :
    (StateSpec.mark name balanced s).balanced = true ↔ s.balanced = true ∨ (s.name = name ∧ balanced = true) := by
  unfold mark
  split <;> simp_all

theorem specs_declare (b : Builder) (name : String) (balanced : Bool) :
    (b.declare name balanced).specs = if name ∈ b.specs.map (·.name) then b.specs.map (StateSpec.mark name balanced)
      else b.specs ++ [⟨name, balanced⟩] := by
  have hany : (b.specs.any (·.name == name) = true) ↔ name ∈ b.specs.map (·.name) := by
    simp [List.any_eq_true]
  unfold declare
  simp only [hany]
  split <;> rfl

/-- **Declaring a state** adds its name behind the others, unless it is there. -/
theorem Declares.declare (h : Declares ns P b) (name : String) (balanced : Bool) :
    Declares (ns ++ [name]) (fun n => P n ∨ (n = name ∧ balanced = true)) (b.declare name balanced) := by
  have hmem : name ∈ b.specs.map (·.name) ↔ name ∈ ns := by rw [h.names, List.mem_eraseDups]
  refine ⟨?_, fun s hs => ?_, fun n hn => ?_⟩
  · rw [specs_declare, eraseDups_concat, ← h.names]
    simp only [hmem]
    split
    · rw [List.map_map]
      exact List.map_congr_left fun s _ => StateSpec.mark_name name balanced s
    · rw [List.map_append]
      rfl
  · rw [specs_declare] at hs
    split at hs
    · obtain ⟨s₀, hs₀, rfl⟩ := List.mem_map.1 hs
      rw [StateSpec.mark_balanced, StateSpec.mark_name, h.balanced s₀ hs₀]
    · rename_i hnew
      rcases List.mem_append.1 hs with hs | hs
      · have hne : s.name ≠ name := fun hname => hnew (hname ▸ List.mem_map_of_mem hs)
        rw [h.balanced s hs]
        simp [hne]
      · rw [List.mem_singleton.1 hs]
        have hnot : ¬P name := fun hp => hnew (hmem.2 (h.known name hp))
        simp [hnot]
  · rcases hn with hn | ⟨rfl, -⟩
    · exact List.mem_append_left _ (h.known n hn)
    · exact List.mem_append_right _ (List.mem_singleton_self n)

theorem Declares.congr {P' : String → Prop} (h : Declares ns P b) (hP : ∀ n, P n ↔ P' n) : Declares ns P' b :=
  ⟨h.names, fun s hs => (h.balanced s hs).trans (hP _), fun n hn => h.known n ((hP n).2 hn)⟩

/-- **States that patterns name** come behind the others, and are not balanced for that. -/
theorem Declares.foldl (h : Declares ns P b) : ∀ names : List String,
    Declares (ns ++ names) P (names.foldl (fun b name => b.declare name false) b) := by
  intro names
  induction names generalizing ns b with
  | nil => rwa [List.append_nil]
  | cons name names ih =>
    rw [List.foldl_cons, List.append_cons]
    exact ih ((h.declare name false).congr fun n => by simp)

theorem Declares.of_specs {b' : Builder} (h : Declares ns P b) (hs : b'.specs = b.specs) : Declares ns P b' :=
  ⟨hs ▸ h.names, hs ▸ h.balanced, h.known⟩

/-! ## What a builder holds -/

theorem specs_punctuator (texts states : List String) : (texts.map (RuleDraft.punctuator states)).map RuleDraft.spec =
    texts.map fun text => (RuleSpec.literal text text .punctuator).within states :=
  List.map_map

theorem add_initial (b : Builder) (d : Declaration) : (b.add d).initial.name = b.initial.name := by
  have declare (name : String) (balanced : Bool) : (b.declare name balanced).initial.name = b.initial.name := by
    unfold Builder.declare
    split
    · exact StateSpec.mark_name name balanced b.initial
    · rfl
  cases d with
  | state name => exact declare name false
  | balancedState name => exact declare name true
  | _ => rfl

theorem add_rules (b : Builder) (d : Declaration) :
    (b.add d).rules = b.rules ++ (d.drafts b.initial.name).map RuleDraft.spec := by
  cases d with
  | state name => exact (declare_keeps b name false).1.trans (List.append_nil _).symm
  | balancedState name => exact (declare_keeps b name true).1.trans (List.append_nil _).symm
  | define name pattern => exact (List.append_nil _).symm
  | rule r => rfl
  | rules rs => rfl
  | punctuators texts => exact congrArg (b.rules ++ ·) (specs_punctuator texts [b.initial.name]).symm
  | punctuatorsWithin texts states => exact congrArg (b.rules ++ ·) (specs_punctuator texts states).symm
  | keywords words => exact (List.append_nil _).symm

theorem add_fragments (b : Builder) (d : Declaration) : (b.add d).fragments = d.fragment?.toList ++ b.fragments := by
  cases d with
  | state name => exact (declare_keeps b name false).2
  | balancedState name => exact (declare_keeps b name true).2
  | _ => rfl

theorem Declares.add (h : Declares ns P b) (d : Declaration) :
    Declares (ns ++ d.state?.toList) (fun n => P n ∨ .balancedState n = d) (b.add d) := by
  have same {b' : Builder} (hb : b'.specs = b.specs) (hd : ∀ n, .balancedState n ≠ d) :
      Declares (ns ++ []) (fun n => P n ∨ .balancedState n = d) b' := by
    rw [List.append_nil]
    exact (h.of_specs hb).congr fun n => by simp [hd n]
  cases d with
  | state name => exact (h.declare name false).congr fun n => by simp
  | balancedState name => exact (h.declare name true).congr fun n => by simp
  | _ => exact same rfl fun _ h => Declaration.noConfusion h

/-- What a builder holds of the declarations it has been told. -/
structure Made (initial : String) (ds : Declarations) (b : Builder) : Prop where
  bottom : b.initial.name = initial
  declares : Declares (ds.states initial) (fun n => .balancedState n ∈ ds) b
  rules : b.rules = (ds.drafts initial).map RuleDraft.spec
  fragments : b.fragments = ds.fragments

/-- **One more declaration.** -/
theorem Made.add (h : Made initial ds b) (d : Declaration) : Made initial (ds ++ [d]) (b.add d) := by
  have hstates : (ds ++ [d] : Declarations).states initial = ds.states initial ++ d.state?.toList := by
    unfold Declarations.states
    cases hd : d.state? <;> simp [hd]
  have hdrafts : (ds ++ [d] : Declarations).drafts initial = ds.drafts initial ++ d.drafts initial := by
    simp [Declarations.drafts]
  have hfragments : (ds ++ [d] : Declarations).fragments = d.fragment?.toList ++ ds.fragments := by
    unfold Declarations.fragments
    cases hd : d.fragment? <;> simp [hd]
  refine ⟨(add_initial b d).trans h.bottom, ?_, ?_, ?_⟩
  · rw [hstates]
    exact (h.declares.add d).congr fun n => by simp
  · rw [add_rules, h.rules, h.bottom, hdrafts, List.map_append]
  · rw [add_fragments, h.fragments, hfragments]

theorem made (initial : String) (ds : Declarations) : Made initial ds (ofDeclarations initial ds) := by
  -- from the last declaration backward, as a builder is told them in turn
  induction ds using List.reverseRecOn with
  | nil => exact ⟨rfl, ⟨rfl, by simp [ofDeclarations, new, specs], by simp⟩, rfl, rfl⟩
  | append_singleton ds d ih =>
    rw [ofDeclarations_concat]
    exact ih.add d

/-! ## States of a table -/

/-- **The states of a table** are those that were declared. -/
theorem Made.declareNamed (h : Made initial ds b) :
    Declares (ds.states initial ++ ds.prefixes initial) (fun n => .balancedState n ∈ ds) b.declareNamed := by
  have hnamed : b.rules.filterMap RuleSpec.namedState? = ds.prefixes initial := by
    rw [h.rules, List.filterMap_map]
    exact congrArg (List.filterMap · (ds.drafts initial)) (funext RuleDraft.spec_namedState?)
  rw [Builder.declareNamed, hnamed]
  exact h.declares.foldl (ds.prefixes initial)

theorem states_names (b : Builder) : (b.states.1 :: b.states.2).map (·.name) = b.specs.map (·.name) := by
  have hothers : b.others.map (·.name) = (b.others.zipIdx.map Prod.fst).map (·.name) := by
    rw [List.zipIdx_map_fst]
  rw [specs, states, List.map_cons, List.map_cons, List.map_map, hothers, List.map_map]
  rfl

theorem exists_spec {q : State} (h : q ∈ b.states.1 :: b.states.2) :
    ∃ s ∈ b.specs, q.name = s.name ∧ q.balanced = s.balanced := by
  rcases List.mem_cons.1 h with rfl | h
  · exact ⟨b.initial, List.mem_cons_self, rfl, rfl⟩
  · obtain ⟨e, he, rfl⟩ := List.mem_map.1 h
    exact ⟨e.1, List.mem_cons_of_mem _ (List.fst_mem_of_mem_zipIdx he), rfl, rfl⟩

/-- States with names of their own, numbered in their order, with a bit for each in a mask. -/
structure Numbered (states : List State) : Prop where
  nodup : (states.map (·.name)).Nodup
  id : ∀ (i : Nat) (q : State), states[i]? = some q → q.id = i
  length_le : states.length ≤ 64

variable {states : List State} {q s : State} {read : Text → Option Regex}

theorem Numbered.getElem? (h : Numbered states) (hq : q ∈ states) : states[q.id]? = some q := by
  obtain ⟨i, hi⟩ := List.mem_iff_getElem?.1 hq
  rwa [h.id i q hi]

theorem Numbered.id_lt (h : Numbered states) (hq : q ∈ states) : q.id < 64 :=
  Nat.lt_of_lt_of_le (List.getElem?_eq_some_iff.1 (h.getElem? hq)).1 h.length_le

/-- **Numbers tell states apart as names do.** -/
theorem Numbered.id_eq_iff (h : Numbered states) (hs : s ∈ states) (hq : q ∈ states) :
    s.id = q.id ↔ s.name = q.name := by
  constructor
  · intro hid
    have heq := h.getElem? hs
    rw [hid, h.getElem? hq, Option.some.injEq] at heq
    rw [heq]
  · intro hname
    rw [List.inj_on_of_nodup_map h.nodup hs hq hname]

theorem Numbered.find? (h : Numbered states) (hq : q ∈ states) : states.find? (·.name == q.name) = some q := by
  cases hf : states.find? (·.name == q.name) with
  | none => simpa using List.find?_eq_none.1 hf q hq
  | some s =>
    have hname : s.name = q.name := by simpa using List.find?_some hf
    rw [List.inj_on_of_nodup_map h.nodup (List.mem_of_find?_eq_some hf) hq hname]

theorem contains_ofList {ss : List State} (h : ∀ s ∈ ss, s.id < 64) :
    (StateMask.ofList ss).contains q = true ↔ ∃ s ∈ ss, s.id = q.id := by
  have fold : ∀ (ss : List State) (m : StateMask), (∀ s ∈ ss, s.id < 64) →
      ((ss.foldl StateMask.insert m).contains q = true ↔ m.contains q = true ∨ ∃ s ∈ ss, s.id = q.id) := by
    intro ss
    induction ss with
    | nil => intro m _; simp
    | cons s ss ih =>
      intro m hlt
      obtain ⟨hs, hss⟩ := List.forall_mem_cons.1 hlt
      rw [List.foldl_cons, ih _ hss, StateMask.contains_insert m s q hs, Bool.or_eq_true, decide_eq_true_eq,
        List.exists_mem_cons_iff, or_assoc]
  rw [StateMask.ofList, fold ss _ h, StateMask.contains_none]
  simp

theorem resolve_eq_ok {n : String} (h : resolve states n = .ok q) : q ∈ states ∧ q.name = n := by
  unfold resolve at h
  split at h
  · rename_i hf
    cases h
    exact ⟨List.mem_of_find?_eq_some hf, by simpa using List.find?_some hf⟩
  · cases h

theorem mapM_resolve {names : List String} {ss : List State} (h : names.mapM (resolve states) = .ok ss) :
    ss.map (·.name) = names ∧ ∀ s ∈ ss, s ∈ states := by
  have hall := forall₂_of_mapM h
  clear h
  induction hall with
  | nil => simp
  | cons hn _ ih =>
    obtain ⟨hmem, hname⟩ := resolve_eq_ok hn
    obtain ⟨hnames, hss⟩ := ih
    exact ⟨by rw [List.map_cons, hname, hnames], List.forall_mem_cons.2 ⟨hmem, hss⟩⟩

/-- **The states of table** are numbered. -/
theorem Made.numbered (h : Made initial ds b) (hb : b.buildWith read = .ok t) : Numbered t.states := by
  have hnodup : (t.states.map (·.name)).Nodup := by
    rw [(buildWith_ok hb).1, states_names, h.declareNamed.names]
    exact nodup_eraseDups _
  refine ⟨hnodup, fun i q hq => ?_, states_length_le hb⟩
  have hat := getElem?_id hb (List.mem_of_getElem? hq)
  have hlt := (List.getElem?_eq_some_iff.1 hat).1
  exact (List.getElem?_inj hlt (List.Nodup.of_map _ hnodup)).1 (hat.trans hq.symm)

/-! ## Rules of a table -/

theorem covers_iff {first : State} {d : RuleDraft} {m : StateMask} (hn : Numbered states) (hf : first ∈ states)
    (hi : first.name = initial) (hq : q ∈ states) (h : resolveScope first states d.spec = .ok m) :
    m.contains q = true ↔ d.Covers initial q.name := by
  -- a mask has the states of its list, and numbers tell states apart as names do
  have hlist : ∀ ss, (∀ s ∈ ss, s ∈ states) →
      ((StateMask.ofList ss).contains q = true ↔ q.name ∈ ss.map (·.name)) := by
    intro ss hss
    rw [contains_ofList fun s hs => hn.id_lt (hss s hs), List.mem_map]
    exact exists_congr fun s => and_congr_right fun hs => hn.id_eq_iff (hss s hs) hq
  unfold resolveScope at h
  rw [RuleDraft.spec_scope, RuleDraft.spec_namedState?] at h
  unfold RuleDraft.Covers
  cases hd : d.scope? with
  | none =>
    rw [hd, Option.getD_none] at h
    cases hp : d.bare.namedState? with
    | none =>
      have hnot : ∀ s, ¬d.Prefixed s := fun s hs => by
        rw [← RuleDraft.prefixed_iff, hp] at hs
        cases hs
      rw [hp] at h
      cases h
      rw [hlist [first] (by simpa using hf)]
      simp [hnot, hi]
    | some name =>
      have hnamed : ∀ s, d.Prefixed s ↔ s = name := fun s => by
        rw [← RuleDraft.prefixed_iff, hp, Option.some.injEq, eq_comm]
      rw [hp] at h
      obtain ⟨s, hs, rfl⟩ := map_eq_ok_iff.1 h
      obtain ⟨hmem, rfl⟩ := resolve_eq_ok hs
      rw [hlist [s] (by simpa using hmem)]
      simp [hnamed]
  | some scope =>
    rw [hd, Option.getD_some] at h
    cases scope with
    | unrestricted => exact absurd hd d.scope?_ne_unrestricted
    | everywhere =>
      cases h
      simp [StateMask.contains_all q (hn.id_lt hq)]
    | within names =>
      obtain ⟨ss, hss, rfl⟩ := map_eq_ok_iff.1 h
      obtain ⟨rfl, hmem⟩ := mapM_resolve hss
      rw [hlist ss hmem]
      simp

theorem compileShape_expression (read : Text → Option Regex) (fs : Fragments) (name : String) (w : Text) :
    compileShape read fs name (.regex w) = match fs.expand (Fragments.unprefixed w) with
      | .error n => .error (.cyclicFragment n)
      | .ok u => match read (anchored u) with
        | some r => .ok (.regex (anchored u) r, w)
        | none => .error (.invalidPattern name) := rfl

theorem compileShape_eq_ok_iff {fs : Fragments} {name : String} {shape : Shape} {p : Pattern} {source : Text} :
    compileShape read fs name shape = .ok (p, source) ↔ shape.Denotes read fs p ∧ source = shape.source := by
  cases shape with
  | literal t =>
    rw [compileShape]
    constructor
    · intro h
      split at h
      · cases h
      · rename_i hne
        cases h
        exact ⟨.literal (by simpa using hne), rfl⟩
    · rintro ⟨⟨hne⟩, rfl⟩
      exact if_neg (by simpa using hne)
  | regex w =>
    rw [compileShape_expression]
    constructor
    · intro h
      split at h
      · cases h
      · rename_i u hu
        obtain ⟨hd, hx⟩ := Fragments.expandTo_eq_ok_iff.1 hu
        split at h
        · rename_i r hr
          cases h
          exact ⟨.regex hd hx hr, rfl⟩
        · cases h
    · rintro ⟨h, rfl⟩
      cases h with
      | regex hd hx hr =>
        have hu := Fragments.expandTo_eq_ok_iff.2 ⟨hd, hx⟩
        simp only [Fragments.expand, hu, hr]
  | scan f =>
    constructor
    · intro h
      cases h
      exact ⟨.scan f, rfl⟩
    · rintro ⟨⟨⟩, rfl⟩
      rfl

theorem follows_of_resolveTarget {d : RuleDraft} {tr : Transition} (h : resolveTarget t.states d.spec.target = .ok tr) :
    t.Follows d.target? tr := by
  rw [RuleDraft.spec_target] at h
  cases hd : d.target? with
  | none =>
    rw [hd] at h
    exact (Except.ok.inj h).symm
  | some target =>
    rw [hd, Option.getD_some] at h
    cases target with
    | stay => exact (Except.ok.inj h).symm
    | pop => exact (Except.ok.inj h).symm
    | push name =>
      obtain ⟨q, hq, rfl⟩ := map_eq_ok_iff.1 h
      obtain ⟨hmem, hname⟩ := resolve_eq_ok hq
      exact ⟨q, hmem, hname, rfl⟩

/-- **What is compiled of a rule is what was said of it.** -/
theorem realises_of_compile {fs : Fragments} {d : RuleDraft} {r : Rule} {i : Nat} (hn : Numbered t.states)
    (hi : t.initial.name = initial) (hr : t.rules[i]? = some r)
    (h : compile read fs t.initial t.states d.spec = .ok r) : t.Realises read fs initial i d r := by
  obtain ⟨hscope, htarget, hshape, hkind, hu⟩ := compile_ok h
  obtain ⟨hname, hdshape, hdkind, hdu⟩ := RuleDraft.spec_keeps d
  rw [hdshape] at hshape
  obtain ⟨hpattern, hsource⟩ := compileShape_eq_ok_iff.1 hshape
  refine ⟨(compile_name h).trans hname, hkind.trans hdkind, hpattern, hsource, by rw [hu, hdu], fun q hq => ?_,
    follows_of_resolveTarget htarget⟩
  rw [← covers_iff hn List.mem_cons_self hi hq hscope, Table.eligible, List.mem_filter]
  exact and_iff_right (List.mem_zipIdx_iff_getElem?.2 hr)

/-- **A built table means what its builder was told**, however expressions are read. -/
theorem table_means_declarations {read : Text → Option Regex} {initial : String} {ds : Declarations} {t : Table}
    (h : (ofDeclarations initial ds).buildWith read = .ok t) : t.Means read initial ds := by
  have hmade := made initial ds
  have hn := hmade.numbered h
  have hdeclared := hmade.declareNamed
  obtain ⟨hstates, hrules⟩ := buildWith_ok h
  rw [hmade.rules, hmade.fragments, List.forall₂_map_left_iff] at hrules
  have hnames : t.states.map (·.name) = ds.names initial := by
    rw [hstates, states_names, hdeclared.names, Declarations.names]
  have hinitial : t.initial.name = initial := by
    rw [Declarations.names, Declarations.states, List.cons_append, List.eraseDups_cons] at hnames
    exact (List.cons.inj hnames).1
  refine ⟨hnames, hn.nodup, ⟨Nat.succ_pos _, hn.length_le⟩, ⟨hinitial, hn.id 0 t.initial rfl⟩, fun i q hq => ?_,
    fun q hq => ?_, hrules.length_eq.symm, fun i d r hd hr => ?_⟩
  · exact ⟨hn.id i q hq, hn.find? (List.mem_of_getElem? hq)⟩
  · rw [hstates] at hq
    obtain ⟨s, hs, hname, hbalanced⟩ := exists_spec hq
    rw [hbalanced, hdeclared.balanced s hs, hname]
  · obtain ⟨hi, rfl⟩ := List.getElem?_eq_some_iff.1 hd
    obtain ⟨hi', rfl⟩ := List.getElem?_eq_some_iff.1 hr
    exact realises_of_compile hn hinitial hr (hrules.get hi hi')

end Builder

/-- A state that only a pattern names, one that becomes balanced later, and a rule that is told one thing and then
another. -/
def Sample.declarations : Declarations :=
  [.rule { name := "word", shape := .regex "<INNER>[a-z]+".toList, kind := .identifier },
    .state "MIDDLE",
    .rule { name := "open", shape := .literal ['('], kind := .punctuator,
            amendments := [.everywhere, .push "INNER", .within ["DEFAULT"], .push "MIDDLE"] },
    .punctuators [","], .balancedState "MIDDLE"]

/-- The state that a pattern names comes last, and what was said last holds. -/
theorem Builder.declarations_in_order :
    ∃ t, (Builder.ofDeclarations "DEFAULT" Sample.declarations).build = .ok t ∧
      t.Means Regex.ofText? "DEFAULT" Sample.declarations ∧
      t.states.map (·.name) = ["DEFAULT", "MIDDLE", "INNER"] ∧
      ∀ r, t.rules[1]? = some r → ∃ q ∈ t.states, q.name = "MIDDLE" ∧ r.transition = .push q := by
  have hany : ((Builder.ofDeclarations "DEFAULT" Sample.declarations).build.toOption.any fun _ => true) = true := by
    decide +kernel
  obtain ⟨t, ht, -⟩ := exists_ok_of_any hany
  have hmeans := Builder.table_means_declarations ht
  exact ⟨t, ht, hmeans, hmeans.names.trans (by decide), fun r hr => (hmeans.rules 1 _ r rfl hr).transition⟩

end ModalLexer
