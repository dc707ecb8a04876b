import ModalLexer.Table.Builder
import ModalLexer.Proofs.History
/-!
# Tiling — tokens cover the text

The tokens taken on the way to a scanner spell the text before its place, one behind the other, and each stands where
walking over the text before it comes to.  `Tiled` is that state of affairs.  A match taken lays the next tile
(`Tiled.step`), entering and leaving states on demand moves none, and so it holds along every history without a failure
(`Tiled.history`).  Where nothing is hidden the tokens taken are the tokens handed out, which makes it a statement about
calls (`lexemes_tile_source`).
-/
namespace ModalLexer

theorem Text.takeBytes?_append (s t : Text) : takeBytes? (bytes s) (s ++ t) = some s := by
  rw [takeBytes?, charsOfBytes?_append, Option.map_some, List.take_left]

def Token.spell (toks : List Token) : Text := toks.flatMap (·.lexeme)

/-- The offset behind the last of some tokens that begin at the start of a text. -/
def Token.endOfAll (toks : List Token) : Nat := (toks.getLast?.map Token.endOffset).getD 0

theorem Token.spell_append (toks us : List Token) : spell (toks ++ us) = spell toks ++ spell us := List.flatMap_append

theorem Token.spell_concat (toks : List Token) (tok : Token) : spell (toks ++ [tok]) = spell toks ++ tok.lexeme := by
  rw [spell_append, spell, spell, List.flatMap_singleton]

theorem Token.spell_cons (tok : Token) (toks : List Token) : spell (tok :: toks) = tok.lexeme ++ spell toks :=
  List.flatMap_cons

/-- **Steps spell the text that they take.** -/
theorem Scanner.Steps.spell {t : Table} {p : Policy} {s s' : Scanner} {toks : List Token} (h : Steps t p s toks s') :
    s.rest = Token.spell toks ++ s'.rest ∧ s'.loc = s.loc.advance (Token.spell toks) := by
  induction h with
  | nil s => exact ⟨rfl, rfl⟩
  | cons hs _ ih =>
    obtain ⟨-, -, -, hrest, hloc, -⟩ := step_token_consumes hs
    rw [Token.spell_cons, List.append_assoc, Location.advance_append, ← hloc, ← ih.1]
    exact ⟨hrest, ih.2⟩

/-- The tokens spell the text before the place of the scanner, without gaps, each at its true location. -/
structure Tiled (source : Text) (name : String) (toks : List Token) (s : Scanner) : Prop where
  text : source = Token.spell toks ++ s.rest
  loc : s.loc = (Location.start name).advance (Token.spell toks)
  tokens : ∀ before tok after, toks = before ++ tok :: after →
    tok.bytes = tok.lexeme.bytes ∧ tok.lexeme ≠ [] ∧ tok.loc = (Location.start name).advance (Token.spell before)

namespace Tiled

variable {source : Text} {name : String} {toks : List Token} {s s' : Scanner} {t : Table} {p : Policy} {tok : Token}

theorem start (t : Table) (source : Text) (name : String) : Tiled source name [] (.start t source name) :=
  ⟨rfl, rfl, fun before tok after h => by cases before <;> cases h⟩

theorem of_place (h : Tiled source name toks s) (hr : s'.rest = s.rest) (hl : s'.loc = s.loc) :
    Tiled source name toks s' :=
  ⟨by rw [hr]; exact h.text, by rw [hl]; exact h.loc, h.tokens⟩

/-- **A step lays the next tile.** -/
theorem step (h : Tiled source name toks s) (hs : s.step t p = .token tok s') :
    Tiled source name (toks ++ [tok]) s' := by
  obtain ⟨hloc, hbytes, hne, hrest, hloc', -⟩ := Scanner.step_token_consumes hs
  refine ⟨?_, ?_, fun before u after hu => ?_⟩
  · rw [Token.spell_concat, List.append_assoc, ← hrest]
    exact h.text
  · rw [Token.spell_concat, Location.advance_append, ← h.loc]
    exact hloc'
  · -- the split is at the new tile or among the old ones
    rcases List.eq_nil_or_concat after with rfl | ⟨after, v, rfl⟩
    · obtain ⟨rfl, hv⟩ := List.append_inj' hu rfl
      cases hv
      exact ⟨hbytes, hne, hloc.trans h.loc⟩
    · rw [List.concat_eq_append, ← List.cons_append, ← List.append_assoc] at hu
      exact h.tokens before u after (List.append_inj' hu rfl).1

/-- **Whatever happens to a scanner keeps the tiling**, unless a step fails. -/
theorem change {e : Scanner.Event} (h : Tiled source name toks s) (hc : Scanner.Change t s e s')
    (he : ∀ err, e ≠ .failed err) : Tiled source name (toks ++ Scanner.taken [e]) s' := by
  cases hc with
  | @take p m ends records _ hm hu hb hmv =>
    exact h.step (Scanner.step_token_iff.2 ⟨m, ends, records, hm, hu, hb, rfl, hmv⟩)
  | drive hmv =>
    obtain ⟨hr, hl, -⟩ := hmv.place
    exact (List.append_nil toks).symm ▸ h.of_place hr hl
  | finish hf =>
    obtain ⟨-, -, rfl⟩ := Scanner.step_finish_iff.1 hf
    exact (List.append_nil toks).symm ▸ h.of_place rfl rfl
  | fail _ => exact absurd rfl (he _)

theorem history {es : List Scanner.Event} (h : Scanner.History t (.start t source name) es s)
    (he : ∀ err, Scanner.Event.failed err ∉ es) : Tiled source name (Scanner.taken es) s := by
  induction h with
  | start => exact start t source name
  | @snoc es e s₁ s₂ _ hc ih =>
    rw [Scanner.taken_append]
    refine (ih fun err hm => he err (List.mem_append_left _ hm)).change hc ?_
    rintro err rfl
    exact he err (by simp)

theorem takeBytes? (h : Tiled source name toks s) : source.takeBytes? s.loc.offset = some (Token.spell toks) := by
  have hoff : s.loc.offset = (Token.spell toks).bytes := by rw [h.loc, Location.start_advance_offset]
  rw [hoff, h.text, Text.takeBytes?_append]

theorem spell_of_end (h : Tiled source name toks s) (hr : s.rest = []) : Token.spell toks = source := by
  rw [h.text, hr, List.append_nil]

theorem endOfAll (h : Tiled source name toks s) (before after : List Token) (hs : toks = before ++ after) :
    Token.endOfAll before = (Token.spell before).bytes := by
  rcases List.eq_nil_or_concat before with rfl | ⟨before, u, rfl⟩
  · rfl
  · rw [List.concat_eq_append] at hs ⊢
    obtain ⟨hbytes, -, hloc⟩ := h.tokens before u after (by rw [hs, List.append_assoc]; rfl)
    rw [Token.endOfAll, List.getLast?_concat, Option.map_some, Option.getD_some, Token.endOffset, hbytes, hloc,
      Location.start_advance_offset, Token.spell_concat, Text.bytes_append]

/-- **Every tile in its place**: it is not empty, it begins where the one before it ends, and its location is the one
that the text before it leads to. -/
theorem tile (h : Tiled source name toks s) {before after : List Token} {tok : Token}
    (hs : toks = before ++ tok :: after) :
    tok.bytes = tok.lexeme.bytes ∧ 1 ≤ tok.bytes ∧ tok.loc.offset = Token.endOfAll before ∧
      ∃ t, source.takeBytes? tok.loc.offset = some t ∧ tok.loc = (Location.start name).advance t := by
  obtain ⟨hbytes, hne, hloc⟩ := h.tokens before tok after hs
  have hoff : tok.loc.offset = (Token.spell before).bytes := by rw [hloc, Location.start_advance_offset]
  refine ⟨hbytes, ?_, ?_, Token.spell before, ?_, hloc⟩
  · rw [hbytes]
    exact Text.bytes_pos hne
  · rw [hoff, h.endOfAll before _ hs]
  · rw [hoff, h.text, hs, Token.spell_append, List.append_assoc, Text.takeBytes?_append]

end Tiled

namespace Session

variable {σ : Type}

/-- Where nothing is hidden, the end is answered only at the end. -/
theorem next_eq_end {s : Session σ} (hf : s.failure = none) (hk : s.options.skip = .empty)
    (hn : s.next.1 = .ok none) : s.scanner.rest = [] ∧ s.scanner.stack.depth = 0 := by
  rw [(next_of_seek hf).1, seek_eq_step hk, step] at hn
  cases hs : s.scanner.step s.table s.options.policy with
  | token tok k => rw [hs] at hn; cases hn
  | fail e k => rw [hs] at hn; cases hn
  | finish k =>
    obtain ⟨hr, hd, -⟩ := Scanner.step_finish_iff.1 hs
    exact ⟨hr, hd⟩

/-- **The tokens handed out tile the text.**  However calls for tokens are mixed with others, entering and leaving
states among them: while nothing is hidden and no call for a token has failed, the lexemes handed out spell the text up
to the place of the session, every token begins where the one before it ends and stands where the text before it leads
to, and so does the session.  The end is answered only behind the whole text and with no state entered. -/
theorem lexemes_tile_source (t : Table) (source : Text) (name : String) (policy : Policy) (memory : σ)
    (cs : List (Call σ)) (hskip : ∀ k, Call.setSkip k ∈ cs → k = .empty)
    (hok : ∀ r ∈ ((Session.new t source name ⟨.empty, policy⟩ memory).calls cs).1,
      r.1.isPeek = false → r.2.error? = none) :
    let r := (Session.new t source name ⟨.empty, policy⟩ memory).calls cs
    let toks := handedOut r.1
    let s := r.2
    source.takeBytes? s.scanner.loc.offset = some (Token.spell toks) ∧
      s.scanner.loc = (Location.start name).advance (Token.spell toks) ∧
      (∀ before tok after, toks = before ++ tok :: after →
        tok.bytes = tok.lexeme.bytes ∧ 1 ≤ tok.bytes ∧ tok.loc.offset = Token.endOfAll before ∧
          ∃ u, source.takeBytes? tok.loc.offset = some u ∧ tok.loc = (Location.start name).advance u) ∧
      (s.next.1 = .ok none → Token.spell toks = source ∧ s.scanner.stack.depth = 0) := by
  have hf := calls_failure_none cs _ rfl hok
  obtain ⟨es, hes, hfail, htaken⟩ := calls_history cs (Session.new t source name ⟨.empty, policy⟩ memory)
  have ht := Tiled.history hes fun e he => by rw [hfail e he] at hf; cases hf
  rw [htaken rfl hskip] at ht
  refine ⟨ht.takeBytes?, ht.loc, fun before tok after hs => ht.tile hs, fun hn => ?_⟩
  obtain ⟨hr, hd⟩ := next_eq_end hf (calls_skip rfl hskip) hn
  exact ⟨ht.spell_of_end hr, hd⟩

end Session

/-- Template literals of one text, with names and brackets in their substitutions. -/
def Sample.templates : Builder :=
  (Builder.new "DEFAULT")
    |>.state "TEMPLATE"
    |>.balancedState "INTERPOLATION"
    |>.addRules [
      ((RuleSpec.literal "open" "`" .templateDelimiter).within ["DEFAULT", "INTERPOLATION"]).push "TEMPLATE",
      ((RuleSpec.literal "close" "`" .templateDelimiter).within ["TEMPLATE"]).pop,
      (RuleSpec.literal "text" "é\n" .templateText).within ["TEMPLATE"],
      ((RuleSpec.literal "hole" "$\x7b" .interpolationStart).within ["TEMPLATE"]).push "INTERPOLATION",
      (RuleSpec.literal "name" "x" .identifier).within ["DEFAULT", "INTERPOLATION"]]
    |>.punctuatorsWithin ["(", ")", "\x7b", "\x7d"] ["INTERPOLATION"]

def Sample.table : Table := Sample.templates.build.toOption.getD ⟨⟨0, "DEFAULT", false⟩, [], [], []⟩

/-- The name in parentheses is scanned in a state entered on demand. -/
theorem Session.templates_tile_source :
    let source := "`é\n$\x7b(x)\x7d`".toList
    let r := (Session.new Sample.table source "t" ⟨.empty, .longest⟩ ()).calls
      [.next, .next, .next, .next, .push "DEFAULT", .next, .pop, .next, .next, .next]
    Sample.templates.build = .ok Sample.table ∧ (handedOut r.1).length = 8 ∧ r.2.next.1 = .ok none ∧
      r.2.scanner.loc = ⟨11, 2, 8, "t"⟩ ∧ Token.spell (handedOut r.1) = source := by
  refine ⟨rfl, by decide, rfl, by decide, ?_⟩
  refine ((lexemes_tile_source Sample.table _ "t" .longest () _ (fun k hk => ?_) (by decide)).2.2.2 rfl).1
  simp at hk

end ModalLexer
