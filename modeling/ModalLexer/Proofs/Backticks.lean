import ModalLexer.Proofs.Openers
import ModalLexer.Proofs.Shapes
/-!
# Backticks — the text of a template is cut at its delimiters and nowhere else

The text of a template is made of ordinary characters, of escapes, and of dollar signs that no brace follows
(`TemplateUnits`).  Whatever follows, it goes on to its end and stops there if a delimiter comes next
(`TemplateUnits.stop`).  So between a backtick and the next delimiter all of it, and nothing else, is scanned as text
(`Ecmascript.template_steps`): a dollar sign, an escape or a brace in it is never taken for an interpolation, and the
delimiter behind it is never taken for text.
-/
namespace ModalLexer

/-- **The text of a template** that a backtick may close: characters, escapes, and dollar signs with no brace behind. -/
inductive TemplateUnits : Text → Prop
  | nil : TemplateUnits []
  | char {c : Char} {t : Text} (ht : c ≠ '\x60') (hb : c ≠ '\\') (hd : c ≠ '$') (h : TemplateUnits t) :
      TemplateUnits (c :: t)
  | escape {c : Char} {t : Text} (h : TemplateUnits t) : TemplateUnits ('\\' :: c :: t)
  | dollar {t : Text} (hd : (t ++ ['\x60']).head? ≠ some '\x7b') (h : TemplateUnits t) : TemplateUnits ('$' :: t)

/-- **The text stops behind its units**, if a delimiter comes next. -/
theorem TemplateUnits.stop {t u : Text} (h : TemplateUnits t) (hu : templateStop u = u) (hb : u.head? ≠ some '\x7b') :
    templateStop (t ++ u) = u := by
  induction h with
  | nil => exact hu
  | char ht hb hd _ ih => exact (templateStop_other hb ht fun h => absurd h hd).trans ih
  | escape _ ih => exact (templateStop_escape _ _).trans ih
  | @dollar t hd _ ih =>
    refine (templateStop_other (by decide) (by decide) fun _ => ?_).trans ih
    cases t with
    | nil => exact hb
    | cons c t => exact hd

namespace Grammar.Ecmascript

open Scanner (Steps)

variable {t : Table} {q : State} {tok : Token} {k : Scanner} {v u rest : Text}

theorem template_kinds : ∀ d ∈ Builder.specsIn base (states .ecmascript) builder.rules template,
    Builder.resolveTarget (states .ecmascript) d.target = .ok .stay → d.kind = .templateText := by
  decide +kernel

theorem kind_of_text (ht : ecmascriptTable = .ok t) (h : t.Makes template .stay tok) : tok.kind = .templateText := by
  obtain ⟨d, hd, htarget, hkind⟩ := declared_of_makes (g := .ecmascript) ht h
  have htext := template_kinds d hd htarget
  rw [htext] at hkind
  exact hkind (by decide)

/-- **A template is scanned to the first delimiter of its text**, wherever code stands. -/
theorem template_steps (ht : ecmascriptTable = .ok t) (hk : k.stack.top.state = base ∨ k.stack.top.state = interpolation)
    (hr : k.rest = '\x60' :: (v ++ u)) (hstop : templateStop (v ++ u) = u) :
    ∃ o texts k', Steps t .longest k (o :: texts) k' ∧ k'.rest = u ∧ k'.stack = k.stack.push template k.loc ∧
      k'.loc = k.loc.advance ('\x60' :: v) ∧ o.kind = .templateDelimiter ∧ o.lexeme = ['\x60'] ∧
      (∀ tok ∈ texts, tok.kind = .templateText) ∧ Token.spell texts = v := by
  have hopener : (⟨⟨k.stack.top.state, "template-open", .templateDelimiter, .push template⟩, ['\x60']⟩ : Opener) ∈
      openers .ecmascript := by
    rcases hk with hk | hk <;> rw [hk] <;> simp [openers]
  obtain ⟨o, hstep, hkind, hlex, -⟩ := step_opener (g := .ecmascript) ht hopener rfl hr (.push template _)
  obtain ⟨texts, k', hsteps, hstack, -, hmakes, hrest⟩ := (templates ht).reaches (p := .longest)
    (k := (k.skipChars 1).enter template k.loc) rfl
  have hbehind : ((k.skipChars 1).enter template k.loc).rest = v ++ u := by
    show k.rest.drop 1 = v ++ u
    rw [hr]
    rfl
  rw [hbehind, hstop] at hrest
  have hspell : Token.spell texts = v := by
    have happ := hsteps.spell.1
    rw [hbehind, hrest] at happ
    exact (List.append_cancel_right happ).symm
  have hall := Steps.cons hstep hsteps
  refine ⟨o, texts, k', hall, hrest, hstack, ?_, hkind, hlex, fun tok htok => kind_of_text ht (hmakes tok htok), hspell⟩
  rw [hall.spell.2, Token.spell_cons, hlex, hspell]
  rfl

theorem shown_of_texts {o c : Token} {texts : List Token} (ho : o.kind.isTrivia = false)
    (htexts : ∀ tok ∈ texts, tok.kind = .templateText) (hc : c.kind.isTrivia = false) :
    ∀ tok ∈ o :: texts ++ [c], KindSet.trivia.contains tok.kind = false := by
  intro tok htok
  simp only [List.cons_append, List.mem_cons, List.mem_append, List.not_mem_nil, or_false] at htok
  rcases htok with rfl | htok | rfl
  · exact ho
  · rw [htexts tok htok]
    decide
  · exact hc

theorem tokenize_template (ht : ecmascriptTable = .ok t) (hstop : templateStop (v ++ ['\x60']) = ['\x60'])
    (name : String) :
    ∃ o texts c, tokenize .ecmascript ('\x60' :: (v ++ ['\x60'])) name = .ok (o :: (texts ++ [c])) ∧
      o.kind = .templateDelimiter ∧ o.lexeme = ['\x60'] ∧ (∀ tok ∈ texts, tok.kind = .templateText) ∧
      Token.spell texts = v ∧ c.kind = .templateDelimiter ∧ c.lexeme = ['\x60'] := by
  have hcode : (Scanner.start t ('\x60' :: (v ++ ['\x60'])) name).stack.top.state = base :=
    initial_eq (g := .ecmascript) ht
  obtain ⟨o, texts, k, hsteps, hrest, hstack, -, ho, holex, htexts, hspell⟩ :=
    template_steps ht (.inl hcode) rfl hstop
  -- the delimiter leaves the template, and that is the end of the text
  have hleave : (k.skipChars 1).leave =
      .ok (template, { k.skipChars 1 with stack := (Scanner.start t [] name).stack }) := by
    refine Scanner.leave_eq_ok.2 ⟨_, ?_, rfl⟩
    show k.stack.pop? = _
    rw [hstack]
    rfl
  obtain ⟨c, hclose, hc, hclex, -⟩ := step_opener (g := .ecmascript) (u := [])
    (x := ⟨⟨template, "template-close", .templateDelimiter, .pop⟩, ['\x60']⟩) ht (by simp [openers])
    (by rw [hstack]; rfl) hrest (.pop hleave)
  have hend : (k.skipChars 1).rest = [] := by
    show k.rest.drop 1 = []
    rw [hrest]
    rfl
  refine ⟨o, texts, c, ?_, ho, holex, htexts, hspell, hc, hclex⟩
  exact tokenize_of_steps (g := .ecmascript) ht (hsteps.trans (.cons hclose (.nil _))) hend rfl
    (shown_of_texts (by rw [ho]; rfl) htexts (by rw [hc]; rfl))

theorem run_interpolated (ht : ecmascriptTable = .ok t)
    (hstop : templateStop (v ++ '$' :: '\x7b' :: rest) = '$' :: '\x7b' :: rest) (name : String) :
    ∃ o texts i more,
      (quiet t ('\x60' :: (v ++ '$' :: '\x7b' :: rest)) .trivia
        (.start t ('\x60' :: (v ++ '$' :: '\x7b' :: rest)) name)).run.1 =
        o :: (texts ++ i :: more) ∧
      o.kind = .templateDelimiter ∧ o.lexeme = ['\x60'] ∧ (∀ tok ∈ texts, tok.kind = .templateText) ∧
      Token.spell texts = v ∧ i.kind = .interpolationStart ∧ i.lexeme = ['$', '\x7b'] ∧
      i.loc = (Location.start name).advance ('\x60' :: v) := by
  have hcode : (Scanner.start t ('\x60' :: (v ++ '$' :: '\x7b' :: rest)) name).stack.top.state = base :=
    initial_eq (g := .ecmascript) ht
  obtain ⟨o, texts, k, hsteps, hrest, hstack, hloc, ho, holex, htexts, hspell⟩ :=
    template_steps ht (.inl hcode) rfl hstop
  obtain ⟨i, hopen, hi, hilex, hiloc, -⟩ := step_opener (g := .ecmascript) (u := rest)
    (x := ⟨⟨template, "interpolation-open", .interpolationStart, .push interpolation⟩, ['$', '\x7b']⟩) ht
    (by simp [openers]) (by rw [hstack]; rfl) hrest (.push interpolation _)
  obtain ⟨s, -, -, -, -, hrun⟩ := Session.run_of_steps (hsteps.trans (.cons hopen (.nil _)))
    (quiet t _ .trivia (.start t _ name)) rfl rfl rfl rfl
  rw [Session.visible_of_kinds (shown_of_texts (by rw [ho]; rfl) htexts (by rw [hi]; rfl))] at hrun
  refine ⟨o, texts, i, s.run.1, ?_, ho, holex, htexts, hspell, hi, hilex, hiloc.trans hloc⟩
  rw [hrun]
  simp

/-- **The text of a template is never lost or mistaken.**  A template is tokenized into its delimiters and tokens of
text between them, which spell its text; and where the text is followed by a dollar sign and a brace instead, these come
next, at the place behind it, whatever follows them. -/
theorem template_text_kept (hv : TemplateUnits v) (name : String) :
    (∃ o texts c, tokenize .ecmascript ('\x60' :: (v ++ ['\x60'])) name = .ok (o :: (texts ++ [c])) ∧
      o.kind = .templateDelimiter ∧ o.lexeme = ['\x60'] ∧ (∀ tok ∈ texts, tok.kind = .templateText) ∧
      Token.spell texts = v ∧ c.kind = .templateDelimiter ∧ c.lexeme = ['\x60']) ∧
    ∀ rest, ∃ s o texts i more, session .ecmascript ('\x60' :: (v ++ '$' :: '\x7b' :: rest)) name () = .ok s ∧
      s.run.1 = o :: (texts ++ i :: more) ∧
      o.kind = .templateDelimiter ∧ o.lexeme = ['\x60'] ∧ (∀ tok ∈ texts, tok.kind = .templateText) ∧
      Token.spell texts = v ∧ i.kind = .interpolationStart ∧ i.lexeme = ['$', '\x7b'] ∧
      i.loc = (Location.start name).advance ('\x60' :: v) ∧ i.loc.offset = Text.bytes ('\x60' :: v) := by
  obtain ⟨t, ht⟩ := Grammar.exists_table .ecmascript
  refine ⟨tokenize_template ht (hv.stop rfl (by simp)) name, fun rest => ?_⟩
  obtain ⟨o, texts, i, more, hrun, ho, holex, htexts, hspell, hi, hilex, hloc⟩ :=
    run_interpolated ht (hv.stop (u := '$' :: '\x7b' :: rest) rfl (by simp)) name
  refine ⟨_, o, texts, i, more, ?_, hrun, ho, holex, htexts, hspell, hi, hilex, hloc, ?_⟩
  · rw [session_eq, ht]
  · rw [hloc, Location.start_advance_offset]

/-- Dollar signs side by side, a brace behind an escaped dollar sign, and a backtick behind a backslash. -/
theorem dollars_and_escapes_kept :
    ∃ o texts c, tokenize .ecmascript "\x60$$ \\$\x7b\\\x60$\x60".toList "t" = .ok (o :: (texts ++ [c])) ∧
      o.kind = .templateDelimiter ∧ o.lexeme = ['\x60'] ∧ (∀ tok ∈ texts, tok.kind = .templateText) ∧
      Token.spell texts = "$$ \\$\x7b\\\x60$".toList ∧ c.kind = .templateDelimiter ∧ c.lexeme = ['\x60'] := by
  have hv : TemplateUnits "$$ \\$\x7b\\\x60$".toList := by
    refine .dollar (by decide) (.dollar (by decide) (.char (by decide) (by decide) (by decide) (.escape ?_)))
    exact .char (by decide) (by decide) (by decide) (.escape (.dollar (by decide) .nil))
  exact (template_text_kept hv "t").1

end Grammar.Ecmascript
end ModalLexer
