import ModalLexer.Proofs.Phrases
import ModalLexer.Proofs.Separation
import ModalLexer.Proofs.Templates
/-!
# Movers — the rules of a grammar that enter and leave states

Few rules of a grammar change the stack.  `Grammar.movers` lists them, each with a state in which it is eligible, and the
declarations say that there are no others (`Grammar.suits_declared`).  So a token tells by the name of its rule whether it
has changed the stack, and how (`Grammar.made`).
-/
namespace ModalLexer

namespace Table

/-- The name of the rule that a token comes from. -/
def nameOf? (t : Table) (tok : Token) : Option String := t.rules[tok.rule]?.map (·.name)

theorem classify_of_ne {t : Table} {r : Rule} (lexeme : Text) (h : r.kind ≠ .identifier) :
    t.classify r lexeme = r.kind := if_neg fun hk => h hk.1

theorem classify_cases (t : Table) (r : Rule) (lexeme : Text) :
    t.classify r lexeme = r.kind ∨ r.kind = .identifier ∧ t.classify r lexeme = .keyword := by
  unfold classify
  split
  · rename_i h
    exact .inr ⟨h.1, rfl⟩
  · exact .inl rfl

end Table

namespace Grammar

/-- A rule that changes the stack, in a state in which it is eligible. -/
structure Mover where
  state : State
  rule : String
  kind : Kind
  transition : Transition
  deriving DecidableEq

def base : State := ⟨0, "DEFAULT", false⟩

def Ecmascript.interpolation : State := ⟨2, interpolationState, true⟩

def Bnf.action : State := ⟨1, actionState, true⟩

def states : Grammar → List State
  | ecmascript => [base, Ecmascript.template, Ecmascript.interpolation, Ecmascript.comment, Ecmascript.regexp]
  | c => [base, comment c]
  | bnf => [base, Bnf.action, comment bnf]

def movers : Grammar → List Mover
  | ecmascript => [
      ⟨base, "template-open", .templateDelimiter, .push Ecmascript.template⟩,
      ⟨Ecmascript.interpolation, "template-open", .templateDelimiter, .push Ecmascript.template⟩,
      ⟨Ecmascript.template, "template-close", .templateDelimiter, .pop⟩,
      ⟨Ecmascript.template, "interpolation-open", .interpolationStart, .push Ecmascript.interpolation⟩,
      ⟨base, "comment-open", .comment, .push Ecmascript.comment⟩,
      ⟨Ecmascript.interpolation, "comment-open", .comment, .push Ecmascript.comment⟩,
      ⟨Ecmascript.regexp, "comment-open", .comment, .push Ecmascript.comment⟩,
      ⟨Ecmascript.comment, "comment-close", .comment, .pop⟩,
      ⟨Ecmascript.regexp, "regexp-body", .regexp, .pop⟩]
  | c => [
      ⟨base, "comment-open", .comment, .push (comment c)⟩,
      ⟨comment c, "comment-close", .comment, .pop⟩]
  | bnf => [
      ⟨base, "comment-open", .comment, .push (comment bnf)⟩,
      ⟨Bnf.action, "comment-open", .comment, .push (comment bnf)⟩,
      ⟨comment bnf, "comment-close", .comment, .pop⟩,
      ⟨base, "prologue-open", .directive, .push Bnf.action⟩,
      ⟨base, "action-open", .interpolationStart, .push Bnf.action⟩,
      ⟨Bnf.action, "prologue-close", .directive, .pop⟩]

/-- The states in which punctuators are eligible. -/
def punctuated : Grammar → List State
  | ecmascript => [base, Ecmascript.interpolation]
  | c => [base]
  | bnf => [base, Bnf.action]

/-- What a rule eligible in a state is like: it is a mover, or it has the name of none and changes nothing. -/
def suits (g : Grammar) (q : State) (name : String) (kind : Kind) (r : Transition) : Bool :=
  if r = .stay then
    g.movers.all (·.rule != name) && kind != .interpolationStart && kind != .interpolationEnd &&
      (kind != .punctuator || g.punctuated.contains q)
  else g.movers.contains ⟨q, name, kind, r⟩

theorem states_declared (g : Grammar) :
    g.builder.declareNamed.states.1 :: g.builder.declareNamed.states.2 = g.states := by
  cases g <;> decide +kernel

theorem suits_declared (g : Grammar) :
    ∀ q ∈ g.states, ∀ d ∈ Builder.specsIn base g.states g.builder.rules q,
      (Builder.resolveTarget g.states d.target).toOption.all (g.suits q d.name d.kind) = true := by
  cases g <;> decide +kernel

/-- A token that has left the stack alone. -/
structure Plain (g : Grammar) (t : Table) (q : State) (tok : Token) : Prop where
  name : ∀ m ∈ g.movers, t.nameOf? tok ≠ some m.rule
  start : tok.kind ≠ .interpolationStart
  ending : tok.kind ≠ .interpolationEnd
  punctuator : tok.kind = .punctuator → q ∈ g.punctuated

variable {g : Grammar} {t : Table} {q q' : State} {rule : Rule} {r : Transition} {tok : Token}

theorem Plain.letters (h : g.Plain t q tok) (hq : q ∉ g.punctuated) : tok.letters = [] :=
  Scanner.letters_of_other fun ho => hq (h.punctuator ho.1)

theorem states_eq_declared (ht : g.table = .ok t) : t.states = g.states := by
  rw [table_eq_build] at ht
  rw [(Builder.build_ok ht).1, states_declared]

theorem initial_eq (ht : g.table = .ok t) : t.initial = base := by
  have hstates := states_eq_declared ht
  cases g <;> exact (List.cons.inj hstates).1

/-- **What a rule of a grammar is like**, in each state in which it is eligible. -/
theorem suits_rule (ht : g.table = .ok t) (hr : rule ∈ t.rules) (hq : q ∈ g.states)
    (hm : rule.mask.contains q = true) : g.suits q rule.name rule.kind rule.transition = true := by
  have hb : g.builder.build = .ok t := table_eq_build g ▸ ht
  obtain ⟨d, hd, hc⟩ := Builder.mem_rules_within hb hr hm
  obtain ⟨-, htarget, -, hkind, -⟩ := Builder.compile_ok hc
  rw [initial_eq ht, states_eq_declared ht] at hd
  rw [states_eq_declared ht] at htarget
  have hsuits := suits_declared g q hq d hd
  rw [htarget] at hsuits
  rw [Builder.compile_name hc, hkind]
  exact hsuits

/-- **A token is what its rule is declared to be.** -/
theorem declared_of_makes (ht : g.table = .ok t) (h : t.Makes q r tok) :
    ∃ d ∈ Builder.specsIn base g.states g.builder.rules q, Builder.resolveTarget g.states d.target = .ok r ∧
      (d.kind ≠ .identifier → tok.kind = d.kind) := by
  obtain ⟨rule, hrule, hmask, rfl, hkind⟩ := h
  have hb : g.builder.build = .ok t := table_eq_build g ▸ ht
  obtain ⟨d, hd, hc⟩ := Builder.mem_rules_within hb (List.mem_of_getElem? hrule) hmask
  obtain ⟨-, htarget, -, hdeclared, -⟩ := Builder.compile_ok hc
  rw [initial_eq ht, states_eq_declared ht] at hd
  rw [states_eq_declared ht] at htarget
  refine ⟨d, hd, htarget, fun hne => ?_⟩
  rw [hkind, Table.classify_of_ne _ (hdeclared ▸ hne), hdeclared]

theorem mover_kind (g : Grammar) : ∀ m ∈ g.movers, m.kind ≠ .identifier ∧ m.kind ≠ .punctuator ∧
    m.kind ≠ .interpolationEnd ∧ m.transition.staysIn g.states = true := by
  cases g <;> decide

/-- **A token tells by its rule what became of the stack.** -/
theorem made (ht : g.table = .ok t) (hq : q ∈ g.states) (h : t.Makes q r tok) :
    (r = .stay → g.Plain t q tok) ∧ (r ≠ .stay →
      ∃ m ∈ g.movers, m.state = q ∧ m.transition = r ∧ t.nameOf? tok = some m.rule ∧ tok.kind = m.kind) := by
  obtain ⟨rule, hrule, hmask, rfl, hkind⟩ := h
  have hsuits := suits_rule ht (List.mem_of_getElem? hrule) hq hmask
  have hname : t.nameOf? tok = some rule.name := by rw [Table.nameOf?, hrule, Option.map_some]
  unfold suits at hsuits
  split at hsuits
  · rename_i hstay
    simp only [Bool.and_eq_true, Bool.or_eq_true, List.all_eq_true, bne_iff_ne, ne_eq, List.contains_iff_mem] at hsuits
    obtain ⟨⟨⟨hother, hstart⟩, hending⟩, hpunct⟩ := hsuits
    have hcases := t.classify_cases rule tok.lexeme
    rw [← hkind] at hcases
    refine ⟨fun _ => ⟨?_, ?_, ?_, ?_⟩, fun hmoves => absurd hstay hmoves⟩
    · intro m hm hn
      rw [hname, Option.some.injEq] at hn
      exact hother m hm hn.symm
    · rcases hcases with hk | ⟨-, hk⟩ <;> rw [hk]
      · exact hstart
      · decide
    · rcases hcases with hk | ⟨-, hk⟩ <;> rw [hk]
      · exact hending
      · decide
    · intro hpunctuator
      rcases hcases with hk | ⟨-, hk⟩
      · exact hpunct.resolve_left fun hne => hne (hk.symm.trans hpunctuator)
      · exact absurd (hk.symm.trans hpunctuator) (by decide)
  · have hmem : (⟨q, rule.name, rule.kind, rule.transition⟩ : Mover) ∈ g.movers := List.contains_iff_mem.1 hsuits
    refine ⟨fun hstay => ?_, fun _ => ⟨_, hmem, rfl, rfl, hname, ?_⟩⟩
    · rename_i hmoves
      exact absurd hstay hmoves
    · exact hkind.trans (Table.classify_of_ne _ (mover_kind g _ hmem).1)

/-- The states that rules enter from a state. -/
def entered (g : Grammar) (q : State) : List State :=
  g.movers.filterMap fun m => match m.transition with
    | .push q' => if m.state = q then some q' else none
    | _ => none

theorem mem_entered (ht : g.table = .ok t) (hq : q ∈ g.states) (h : t.Makes q (.push q') tok) :
    q' ∈ g.entered q ∧ q' ∈ g.states ∧ tok.letters = [] := by
  have hmoves : Transition.push q' ≠ .stay := by simp
  obtain ⟨m, hm, rfl, hr, -, hkind⟩ := (made ht hq h).2 hmoves
  obtain ⟨-, hpunct, -, hstays⟩ := mover_kind g m hm
  refine ⟨List.mem_filterMap.2 ⟨m, hm, ?_⟩, ?_, ?_⟩
  · simp [hr]
  · rw [hr] at hstays
    exact List.contains_iff_mem.1 hstays
  · exact Scanner.letters_of_other fun ho => hpunct (hkind.symm.trans ho.1)

/-- What leaves a state is no bracket. -/
theorem leaves_letters {w : BracketWord} (ht : g.table = .ok t) (hq : q ∈ g.states) (h : t.Leaves q w tok) :
    tok.letters = [] := by
  refine Scanner.letters_of_other fun ho => ?_
  cases h with
  | rule h =>
    have hmoves : Transition.pop ≠ .stay := by simp
    obtain ⟨m, hm, -, -, -, hkind⟩ := (made ht hq h).2 hmoves
    exact (mover_kind g m hm).2.1 (hkind.symm.trans ho.1)
  | brace h => exact absurd (h.kind.symm.trans ho.1) (by decide)

/-- There are no brackets in a state without punctuators. -/
theorem word_eq_nil {D : State → State → Prop} {us : List Token} {w : BracketWord} (ht : g.table = .ok t)
    (hq : q ∈ g.states) (hpunct : q ∉ g.punctuated) (h : Phrase t D q us w) : w = [] := by
  induction h with
  | nil => rfl
  | stay hm _ ih => rw [((made ht hq hm).1 rfl).letters hpunct, ih hq hpunct, List.append_nil]
  | block ho _ _ _ _ ih => rw [(mem_entered ht hq ho).2.2, ih hq hpunct, List.append_nil]
  | driven _ _ _ _ _ ih => exact ih hq hpunct

end Grammar
end ModalLexer
