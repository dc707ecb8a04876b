import ModalLexer.Proofs.Openers
/-!
# Quotes — a string is cut at its first unescaped quote

What lies between quotes is read in units: an ordinary character, or a backslash and what it escapes, which is a carriage
return with a line feed or any one character.  Where that reading stops is a function of the text (`quotedStop`).  The
expressions have one more way, as a backslash may also take the carriage return alone.  It leads to the line feed, where
no unit begins and no quote stands, so nothing comes of it (`Regex.quotedChars_reads`).  The form with a closing quote
therefore matches in one way at most, and exactly if the reading stops at a quote; the form without one always matches,
and always less (`Regex.closedBody_iff`, `Regex.openBody_reads`).
-/
namespace ModalLexer

open Regex (Matches)
open Relation (ReflTransGen)

/-- What is left where the reading behind a quote `q` stops: at the same quote, at the end of the line, or at the end of
the text, which a lone backslash before it is part of. -/
def quotedStop (q : Char) : Text → Text
  | [] => []
  | c :: t =>
    if c = '\\' then match t with
      | [] => []
      | '\r' :: '\n' :: u => quotedStop q u
      | _ :: u => quotedStop q u
    else if c = q ∨ c = '\n' ∨ c = '\r' then c :: t
    else quotedStop q t

section

variable {q c : Char} {t u : Text}

theorem quotedStop_crlf (q : Char) (t : Text) : quotedStop q ('\\' :: '\r' :: '\n' :: t) = quotedStop q t := by
  rw [quotedStop, if_pos rfl]

theorem quotedStop_escape (h : c = '\r' → t.head? ≠ some '\n') : quotedStop q ('\\' :: c :: t) = quotedStop q t := by
  rw [quotedStop, if_pos rfl]
  rintro u rfl rfl
  exact h rfl rfl

theorem quotedStop_cons (hb : c ≠ '\\') (t : Text) :
    quotedStop q (c :: t) = if c = q ∨ c = '\n' ∨ c = '\r' then c :: t else quotedStop q t := by
  rw [quotedStop.eq_def]
  simp only [hb, if_false]

theorem quotedStop_at (hb : c ≠ '\\') (h : c = q ∨ c = '\n' ∨ c = '\r') (t : Text) : quotedStop q (c :: t) = c :: t := by
  rw [quotedStop_cons hb, if_pos h]

theorem quotedStop_other (hb : c ≠ '\\') (h : ¬(c = q ∨ c = '\n' ∨ c = '\r')) (t : Text) :
    quotedStop q (c :: t) = quotedStop q t := by
  rw [quotedStop_cons hb, if_neg h]

theorem quotedStop_suffix (q : Char) (t : Text) : quotedStop q t <:+ t := by
  fun_induction quotedStop q t with
  | case1 => exact List.suffix_refl _
  | case2 => exact List.nil_suffix
  | case3 u ih => exact ih.trans ((List.suffix_cons _ u).trans ((List.suffix_cons _ _).trans (List.suffix_cons _ _)))
  | case4 d u _ ih => exact ih.trans ((List.suffix_cons d u).trans (List.suffix_cons _ _))
  | case5 c t => exact List.suffix_refl _
  | case6 c t _ _ ih => exact ih.trans (List.suffix_cons c t)

end

theorem Text.behind_first {c : Char} {e e' t u : Text} (he : c ∉ e) (he' : c ∉ e') (h : e ++ c :: t = e' ++ c :: u) :
    t = u := by
  have before {e : Text} (he : c ∉ e) : ∀ d ∈ e, (d != c) = true := by
    intro d hd
    rw [bne_iff_ne]
    rintro rfl
    exact he hd
  have hdrop := congrArg (List.dropWhile (· != c)) h
  rw [List.dropWhile_append_of_pos (before he), List.dropWhile_append_of_pos (before he'), List.dropWhile_cons_of_neg,
    List.dropWhile_cons_of_neg] at hdrop
  · exact (List.cons.inj hdrop).2
  · simp
  · simp

namespace Regex

/-- A character between quotes `q`, or an escape. -/
def quotedChar (q : Char) : Regex :=
  alt (set (.compl (.unions [.single q, .single '\\', .single '\n', .single '\r'])))
    (seq (char '\\') (alt (seq (char '\r') (char '\n')) anyChar))

/-- What follows the quote that opens a string, up to the one that closes it. -/
def closedBody (q : Char) : Regex := seq (star true (quotedChar q)) (char q)

/-- What follows the quote that opens a string, if nothing closes it. -/
def openBody (q : Char) : Regex := star true (quotedChar q)

variable {q c : Char} {p p' : Cursor} {b : Option Char} {t u : Text}

theorem quotedChar_reads (h : Matches (quotedChar q) p p') :
    (∃ c, p.rest = c :: p'.rest ∧ c ≠ '\\' ∧ ¬(c = q ∨ c = '\n' ∨ c = '\r')) ∨
      p.rest = '\\' :: '\r' :: '\n' :: p'.rest ∨ ∃ c, p.rest = '\\' :: c :: p'.rest := by
  cases h with
  | left h =>
    cases h with
    | @set _ b c t hc =>
      simp only [CharClass.contains, CharClass.unions, CharClass.contains_single, Bool.not_eq_true',
        Bool.or_eq_false_iff, decide_eq_false_iff_not] at hc
      refine .inl ⟨c, rfl, Ne.symm hc.2.1, ?_⟩
      rintro (h | h | h)
      · exact hc.1 h.symm
      · exact hc.2.2.1 h.symm
      · exact hc.2.2.2 h.symm
  | right h =>
    right
    cases h with
    | seq hb h =>
      have hrest := char_reads hb
      cases h with
      | left h =>
        cases h with
        | seq hr hn => exact .inl (by rw [hrest, char_reads hr, char_reads hn])
      | right h =>
        cases h with
        | @set _ b c t _ => exact .inr ⟨c, hrest⟩

/-- **A unit keeps the place where the reading stops**, or comes before a line feed, where nothing goes on. -/
theorem quotedChar_keeps (h : Matches (quotedChar q) p p') :
    quotedStop q p.rest = quotedStop q p'.rest ∨ ∃ u, p'.rest = '\n' :: u ∧ quotedStop q p.rest = quotedStop q u := by
  rcases quotedChar_reads h with ⟨c, hrest, hb, hc⟩ | hrest | ⟨c, hrest⟩
  · rw [hrest]
    exact .inl (quotedStop_other hb hc _)
  · rw [hrest]
    exact .inl (quotedStop_crlf q _)
  · rw [hrest]
    by_cases hcrlf : c = '\r' ∧ p'.rest.head? = some '\n'
    · obtain ⟨rfl, hhead⟩ := hcrlf
      obtain ⟨u, hu⟩ := List.head?_eq_some_iff.1 hhead
      rw [hu]
      exact .inr ⟨u, rfl, quotedStop_crlf q u⟩
    · exact .inl (quotedStop_escape fun hr hn => hcrlf ⟨hr, hn⟩)

/-- No unit begins with a line feed. -/
theorem not_quotedChar (h : Matches (quotedChar q) p p') : p.rest.head? ≠ some '\n' := by
  rcases quotedChar_reads h with ⟨c, hrest, -, hc⟩ | hrest | ⟨c, hrest⟩ <;> rw [hrest, List.head?_cons, ne_eq,
    Option.some.injEq]
  · exact fun h => hc (.inr (.inl h))
  · decide
  · decide

/-- **Units keep the place where the reading stops**, unless the last of them comes before a line feed. -/
theorem quotedChars_reads (h : ReflTransGen (Matches (quotedChar q)) p p') :
    quotedStop q p.rest = quotedStop q p'.rest ∨ ∃ u, p'.rest = '\n' :: u ∧ quotedStop q p.rest = quotedStop q u := by
  induction h with
  | refl => exact .inl rfl
  | tail _ hlast ih =>
    rcases ih with ih | ⟨u, hu, -⟩
    · rw [ih]
      exact quotedChar_keeps hlast
    · exact absurd (by rw [hu]; rfl) (not_quotedChar hlast)

/-- **Units lead to the place where the reading stops**, or to a backslash that ends the text. -/
theorem exists_quotedChars (q : Char) : ∀ (n : Nat) (t : Text) (b : Option Char), t.length < n →
    ∃ b' t', ReflTransGen (Matches (quotedChar q)) ⟨b, t⟩ ⟨b', t'⟩ ∧
      (t' = quotedStop q t ∨ t' = ['\\'] ∧ quotedStop q t = [])
  | n + 1, [], b, _ => ⟨b, [], .refl, .inl rfl⟩
  | n + 1, c :: t, b, hn => by
    rw [List.length_cons] at hn
    have escape : Matches (char '\\') ⟨b, '\\' :: t⟩ ⟨some '\\', t⟩ := .set (by decide)
    by_cases hb : c = '\\'
    · subst hb
      rcases t with _ | ⟨d, u⟩
      · exact ⟨b, ['\\'], .refl, .inr ⟨rfl, by rw [quotedStop, if_pos rfl]⟩⟩
      · rw [List.length_cons] at hn
        by_cases hcrlf : d = '\r' ∧ u.head? = some '\n'
        · obtain ⟨rfl, hhead⟩ := hcrlf
          obtain ⟨v, rfl⟩ := List.head?_eq_some_iff.1 hhead
          rw [List.length_cons] at hn
          obtain ⟨b', t', hunits, hend⟩ := exists_quotedChars q n v (some '\n') (by omega)
          rw [quotedStop_crlf]
          exact ⟨b', t', .head (.right (.seq escape (.left (.seq (.set (by decide)) (.set (by decide)))))) hunits, hend⟩
        · obtain ⟨b', t', hunits, hend⟩ := exists_quotedChars q n u (some d) (by omega)
          rw [quotedStop_escape fun hr hn => hcrlf ⟨hr, hn⟩]
          have any : Matches anyChar ⟨some '\\', d :: u⟩ ⟨some d, u⟩ := .set (by simp [CharClass.contains])
          exact ⟨b', t', .head (.right (.seq escape (.right any))) hunits, hend⟩
    · by_cases hc : c = q ∨ c = '\n' ∨ c = '\r'
      · exact ⟨b, c :: t, .refl, .inl (quotedStop_at hb hc t).symm⟩
      · obtain ⟨b', t', hunits, hend⟩ := exists_quotedChars q n t (some c) (by omega)
        rw [quotedStop_other hb hc]
        have hset :
            (CharClass.compl (.unions [.single q, .single '\\', .single '\n', .single '\r'])).contains c = true := by
          simp only [not_or] at hc
          simp [CharClass.contains, CharClass.unions, Ne.symm hb, Ne.symm hc.1, Ne.symm hc.2.1, Ne.symm hc.2.2]
        exact ⟨b', t', .head (.left (.set hset)) hunits, hend⟩

/-- A quote is a character that is not read as one of a line or an escape. -/
def IsQuote (q : Char) : Prop := q = '"' ∨ q = '\''

/-- **What a closed string matches** is what the reading says. -/
theorem closedBody_iff (hq : IsQuote q) : (∃ b', Matches (closedBody q) ⟨b, t⟩ ⟨b', u⟩) ↔ quotedStop q t = q :: u := by
  have hstop : quotedStop q (q :: u) = q :: u := quotedStop_at (by rcases hq with rfl | rfl <;> decide) (.inl rfl) u
  constructor
  · rintro ⟨b', h⟩
    cases h with
    | seq hs hc =>
      have hquote := char_reads hc
      rcases quotedChars_reads (matches_star_iff.1 hs) with h | ⟨v, hv, -⟩
      · rw [h, hquote, hstop]
      · rw [hquote, List.cons.injEq] at hv
        rcases hq with rfl | rfl <;> cases hv.1
  · intro h
    obtain ⟨b', t', hunits, rfl | ⟨-, hnil⟩⟩ := exists_quotedChars q _ t b (Nat.lt_succ_self _)
    · rw [h] at hunits
      exact ⟨some q, .seq (matches_star_iff.2 hunits) (.set (by rw [CharClass.contains_single]; simp))⟩
    · rw [hnil] at h
      cases h

/-- **A string that is not closed matches less** than one that is. -/
theorem openBody_reads (h : Matches (openBody q) p p') (hu : quotedStop q p.rest = q :: u) :
    u.length < p'.rest.length := by
  have shorter {t : Text} (ht : quotedStop q t = q :: u) : u.length < t.length := by
    have hle := (quotedStop_suffix q t).length_le
    rw [ht, List.length_cons] at hle
    exact hle
  rcases quotedChars_reads (matches_star_iff.1 h) with hsame | ⟨v, hv, hsame⟩
  · exact shorter (hsame.symm.trans hu)
  · rw [hv, List.length_cons]
    exact Nat.lt_succ_of_lt (shorter (hsame.symm.trans hu))

/-! ## From the beginning of a string on -/

/-- **An expression for strings** that begin with `pre` and the quote `q`: it matches as `body` does behind the quote. -/
def Heads (a : Regex) (pre : Text) (q : Char) (body : Regex) : Prop :=
  ∀ t c, Matches a ⟨none, pre ++ q :: t⟩ c ↔ Matches body ⟨some q, t⟩ c

/-- Strings between quotes of either kind. -/
def eitherQuote (body : Char → Regex) : Regex :=
  seq (look .textStart) (alt (seq (char '"') (body '"')) (seq (char '\'') (body '\'')))

def encoding : Regex := alt (seq (char 'u') (char '8')) (alt (char 'u') (alt (char 'U') (char 'L')))

/-- Strings in double quotes, with a prefix or without. -/
def prefixedQuote (body : Char → Regex) : Regex :=
  seq (look .textStart) (seq (atMost true 1 encoding) (seq (char '"') (body '"')))

variable {body : Char → Regex}

theorem quote_then {a : Regex} : Matches (seq (char q) a) ⟨b, c :: t⟩ p ↔ c = q ∧ Matches a ⟨some q, t⟩ p := by
  constructor
  · rintro (_ | _ | _ | ⟨hq, ha⟩)
    cases hq with
    | set hc =>
      rw [CharClass.contains_single, decide_eq_true_eq] at hc
      subst hc
      exact ⟨rfl, ha⟩
  · rintro ⟨rfl, ha⟩
    exact .seq (.set (by rw [CharClass.contains_single]; simp)) ha

theorem eitherQuote_heads (hq : IsQuote q) : (eitherQuote body).Heads [] q (body q) := by
  intro t c
  constructor
  · rintro (_ | _ | _ | ⟨hl, h⟩)
    cases hl
    cases h with
    | left h =>
      obtain ⟨rfl, hbody⟩ := quote_then.1 h
      exact hbody
    | right h =>
      obtain ⟨rfl, hbody⟩ := quote_then.1 h
      exact hbody
  · intro h
    refine .seq (.look rfl) ?_
    rcases hq with rfl | rfl
    · exact .left (quote_then.2 ⟨rfl, h⟩)
    · exact .right (quote_then.2 ⟨rfl, h⟩)

theorem encoding_reads (h : Matches (atMost true 1 encoding) p p') :
    ∃ e ∈ Grammar.C.encodings, p.rest = e ++ p'.rest := by
  cases h with
  | atMostStop => exact ⟨[], by decide, rfl⟩
  | atMostMore h hstop =>
    cases hstop
    cases h with
    | left h =>
      cases h with
      | seq hu h8 => exact ⟨['u', '8'], by decide, by rw [char_reads hu, char_reads h8]; rfl⟩
    | right h =>
      cases h with
      | left h => exact ⟨['u'], by decide, char_reads h⟩
      | right h =>
        cases h with
        | left h => exact ⟨['U'], by decide, char_reads h⟩
        | right h => exact ⟨['L'], by decide, char_reads h⟩

theorem exists_encoding {e : Text} (he : e ∈ Grammar.C.encodings) (b : Option Char) (t : Text) :
    ∃ b', Matches (atMost true 1 encoding) ⟨b, e ++ t⟩ ⟨b', t⟩ := by
  simp only [Grammar.C.encodings, List.mem_cons, List.not_mem_nil, or_false] at he
  rcases he with rfl | rfl | rfl | rfl | rfl
  · exact ⟨b, .atMostStop _⟩
  · exact ⟨_, .atMostMore (.left (.seq (.set (by decide)) (.set (by decide)))) (.atMostStop _)⟩
  · exact ⟨_, .atMostMore (.right (.left (.set (by decide)))) (.atMostStop _)⟩
  · exact ⟨_, .atMostMore (.right (.right (.left (.set (by decide))))) (.atMostStop _)⟩
  · exact ⟨_, .atMostMore (.right (.right (.right (.set (by decide))))) (.atMostStop _)⟩

theorem prefixedQuote_heads {e : Text} (he : e ∈ Grammar.C.encodings) :
    (prefixedQuote body).Heads e '"' (body '"') := by
  have unquoted : ∀ e ∈ Grammar.C.encodings, '"' ∉ e := by decide
  intro t c
  constructor
  · rintro (_ | _ | _ | ⟨hl, h⟩)
    cases hl
    cases h with
    | @seq _ _ _ m _ henc h =>
      obtain ⟨e', he', hrest⟩ := encoding_reads henc
      obtain ⟨b, rest⟩ := m
      cases rest with
      | nil => cases h with | seq hq _ => cases hq
      | cons d u =>
        obtain ⟨rfl, hbody⟩ := quote_then.1 h
        -- no prefix holds a quote, so both begin the string at the same one
        have hsame : t = u := Text.behind_first (unquoted e he) (unquoted e' he') hrest
        rw [hsame]
        exact hbody
  · intro h
    obtain ⟨b, henc⟩ := exists_encoding he none ('"' :: t)
    exact .seq (.look rfl) (.seq henc (quote_then.2 ⟨rfl, h⟩))

end Regex

namespace Pattern

variable {a : Regex} {pre w t u v : Text} {q : Char} {n : Nat}

/-- **A string that is closed is taken up to its quote.** -/
theorem closed_takes (w : Text) (ha : a.Heads pre q (Regex.closedBody q)) (hq : Regex.IsQuote q)
    (hstop : quotedStop q (v ++ q :: u) = q :: u) :
    (regex w a).matchLength? (pre ++ q :: (v ++ q :: u)) = some (pre.length + v.length + 2) := by
  have happ : pre ++ q :: (v ++ q :: u) = pre ++ q :: (v ++ [q]) ++ u := by simp
  have hlen : (pre ++ q :: (v ++ [q])).length = pre.length + v.length + 2 := by
    simp only [List.length_append, List.length_cons, List.length_nil]
    omega
  obtain ⟨b, hb⟩ := (Regex.closedBody_iff (b := some q) hq).2 hstop
  rw [happ, ← hlen]
  refine regex_of_unique (happ ▸ (ha _ _).2 hb) (by simp) fun c hc => ?_
  rw [← happ] at hc
  have hunique := (Regex.closedBody_iff (u := c.rest) hq).1 ⟨c.before, (ha _ _).1 hc⟩
  rw [hstop] at hunique
  exact (List.cons.inj hunique).2.symm

theorem closed_refuses (w : Text) (ha : a.Heads pre q (Regex.closedBody q)) (hq : Regex.IsQuote q)
    (hopen : ∀ u, quotedStop q t ≠ q :: u) : (regex w a).matchLength? (pre ++ q :: t) = none := by
  cases hm : (regex w a).matchLength? (pre ++ q :: t) with
  | none => rfl
  | some n =>
    obtain ⟨c, hc, -⟩ := regex_sound hm
    exact absurd ((Regex.closedBody_iff hq).1 ⟨c.before, (ha _ _).1 hc⟩) (hopen c.rest)

/-- **The form without a closing quote** takes the quote at least, and less than a closed form takes. -/
theorem open_takes (w : Text) (ha : a.Heads pre q (Regex.openBody q)) (t : Text) :
    ∃ n, (regex w a).matchLength? (pre ++ q :: t) = some n ∧ pre.length + 1 ≤ n ∧
      ∀ u, quotedStop q t = q :: u → n + u.length < pre.length + 1 + t.length := by
  have within {c : Regex.Cursor} (hc : Regex.Matches a ⟨none, pre ++ q :: t⟩ c) : c.rest.length ≤ t.length :=
    ((ha _ _).1 hc).suffix.length_le
  have hlen : (pre ++ q :: t).length = pre.length + 1 + t.length := by
    rw [List.length_append, List.length_cons]
    omega
  have hstart : Regex.Matches a ⟨none, pre ++ q :: t⟩ ⟨some q, t⟩ := (ha _ _).2 (.starStop _)
  obtain ⟨n, hn⟩ := exists_regex (w := w) hstart fun c hc hrest => by
    have hle := within hc
    rw [hrest, hlen] at hle
    omega
  obtain ⟨c, hc, hrest⟩ := regex_sound hn
  have hle := within hc
  have hbound := (matchLength?_bounds hn).2
  have hdrop := congrArg List.length hrest
  rw [List.length_drop, hlen] at hdrop
  rw [hlen] at hbound
  refine ⟨n, hn, by omega, fun u hu => ?_⟩
  have hshort := Regex.openBody_reads ((ha _ _).1 hc) hu
  omega

end Pattern
/-! ## The grammars -/

/-- How a string begins, in a state: with a prefix and a quote. -/
structure Quoted where
  state : State
  pre : Text
  quote : Char
  deriving DecidableEq

namespace Grammar

variable {g : Grammar} {t : Table} {x : Quoted} {k : Scanner} {r : Rule} {m : Match} {u v rest : Text}

def quotes : Grammar → List Quoted
  | ecmascript => [
      ⟨base, [], '"'⟩, ⟨base, [], '\''⟩, ⟨Ecmascript.interpolation, [], '"'⟩, ⟨Ecmascript.interpolation, [], '\''⟩]
  | c => C.encodings.map fun e => ⟨base, e, '"'⟩
  | bnf => []

/-- The expression of a grammar for strings, `body` being what follows the first quote. -/
def stringRegex : Grammar → (body : Char → Regex) → Regex
  | c => Regex.prefixedQuote
  | _ => Regex.eitherQuote

theorem string_specs (g : Grammar) (hg : g ≠ .bnf) :
    (∀ d ∈ g.builder.rules, d.name = "string" → d.kind = .string ∧ d.target = .stay ∧
      d.shape.regex? g.builder.fragments =
        some (g.stringRegex (if d.unterminated then Regex.openBody else Regex.closedBody))) ∧
    ∀ x ∈ g.quotes, ∀ b : Bool, ∃ d ∈ Builder.specsIn base g.states g.builder.rules x.state,
      d.name = "string" ∧ d.unterminated = b := by
  cases g with
  | ecmascript => decide +kernel
  | c => decide +kernel
  | bnf => exact absurd rfl hg

theorem quotes_specs (g : Grammar) : ∀ x ∈ g.quotes,
    g ≠ .bnf ∧ (x.quote = '"' ∨ x.quote = '\'') ∧ ⟨x.state, x.pre ++ [x.quote], "string"⟩ ∈ g.reserved := by
  cases g <;> decide

theorem stringRegex_heads (hx : x ∈ g.quotes) (body : Char → Regex) :
    (g.stringRegex body).Heads x.pre x.quote (body x.quote) := by
  cases g with
  | ecmascript =>
    simp only [quotes, List.mem_cons, List.not_mem_nil, or_false] at hx
    rcases hx with rfl | rfl | rfl | rfl
    · exact Regex.eitherQuote_heads (.inl rfl)
    · exact Regex.eitherQuote_heads (.inr rfl)
    · exact Regex.eitherQuote_heads (.inl rfl)
    · exact Regex.eitherQuote_heads (.inr rfl)
  | c =>
    obtain ⟨e, he, rfl⟩ := List.mem_map.1 hx
    exact Regex.prefixedQuote_heads he
  | bnf => cases hx

/-- **What the rules for strings are**, of which there are two. -/
theorem string_rule (ht : g.table = .ok t) (hx : x ∈ g.quotes) (hr : r ∈ t.rules) (hname : r.name = "string") :
    r.kind = .string ∧ r.transition = .stay ∧ ∃ w a, r.pattern = .regex w a ∧
      a.Heads x.pre x.quote ((if r.unterminated then Regex.openBody else Regex.closedBody) x.quote) := by
  obtain ⟨d, hd, hsame, hkind, hu, htarget, hshape⟩ := declared_of_mem ht hr
  obtain ⟨hstring, hstay, hregex⟩ := (string_specs g (quotes_specs g x hx).1).1 d hd (hsame.trans hname)
  rw [hstay] at htarget
  rw [← hu] at hregex
  obtain ⟨w, hp⟩ := Builder.compileShape_regex? hregex hshape
  exact ⟨hkind.trans hstring, (Except.ok.inj htarget).symm, w, _, hp, stringRegex_heads hx _⟩

theorem exists_string_rule (ht : g.table = .ok t) (hx : x ∈ g.quotes) (b : Bool) :
    ∃ r ∈ t.rules, r.mask.contains x.state = true ∧ r.name = "string" ∧ r.unterminated = b := by
  obtain ⟨d, hd, hname, hu⟩ := (string_specs g (quotes_specs g x hx).1).2 x hx b
  rw [← initial_eq ht, ← states_eq_declared ht] at hd
  obtain ⟨r, hr, hmask, hc⟩ := Builder.exists_rule_within (table_eq_build g ▸ ht) hd
  obtain ⟨-, -, -, -, hsame⟩ := Builder.compile_ok hc
  exact ⟨r, hr, hmask, (Builder.compile_name hc).trans hname, hsame.trans hu⟩

/-- **At a quote a rule for strings wins**, the one for closed strings exactly if the string is closed. -/
theorem string_wins (ht : g.table = .ok t) (hx : x ∈ g.quotes) (rest : Text) :
    ∃ m, t.choose? .longest x.state (x.pre ++ x.quote :: rest) = some m ∧ m.rule.name = "string" ∧
      (∀ v u, rest = v ++ x.quote :: u → quotedStop x.quote rest = x.quote :: u →
        m.rule.unterminated = false ∧ m.length = x.pre.length + v.length + 2) ∧
      ((∀ u, quotedStop x.quote rest ≠ x.quote :: u) → m.rule.unterminated = true) := by
  obtain ⟨-, hq, hreserved⟩ := quotes_specs g x hx
  have htext : x.pre ++ x.quote :: rest = x.pre ++ [x.quote] ++ rest := by simp
  have takes (b : Bool) : ∃ r ∈ t.rules, r.mask.contains x.state = true ∧ r.unterminated = b ∧
      ∃ w a, r.pattern = .regex w a ∧
        a.Heads x.pre x.quote ((if b then Regex.openBody else Regex.closedBody) x.quote) := by
    obtain ⟨r, hr, hmask, hname, rfl⟩ := exists_string_rule ht hx b
    obtain ⟨-, -, w, a, hp, ha⟩ := string_rule ht hx hr hname
    exact ⟨r, hr, hmask, rfl, w, a, hp, ha⟩
  obtain ⟨ropen, hopen, hopenMask, -, wopen, aopen, hopenPattern, haopen⟩ := takes true
  obtain ⟨n, hn, hle, -⟩ := Pattern.open_takes wopen haopen rest
  rw [← hopenPattern] at hn
  obtain ⟨i, hcand⟩ := Table.exists_candidate hopen hopenMask hn
  rw [htext] at hcand
  obtain ⟨m, hm, hname, -⟩ := winner_of_reserved ht hreserved (by simp) hcand (by simpa using hle)
  rw [← htext] at hm
  obtain ⟨hmem, -, hlen⟩ := Table.choose?_rule hm
  obtain ⟨-, -, w, a, hp, ha⟩ := string_rule ht hx hmem hname
  rw [hp] at hlen
  refine ⟨m, hm, hname, ?_, fun hno => ?_⟩
  · rintro v u rfl hstop
    obtain ⟨rclosed, hclosed, hclosedMask, -, wclosed, aclosed, hclosedPattern, haclosed⟩ := takes false
    have hwhole := Pattern.closed_takes wclosed haclosed hq hstop
    rw [← hclosedPattern] at hwhole
    obtain ⟨j, hcand'⟩ := Table.exists_candidate hclosed hclosedMask hwhole
    have hmax := Table.longest_length hm hcand'
    cases hu : m.rule.unterminated with
    | true =>
      -- the form without a closing quote would have to be as long as the closed one
      rw [hu] at ha
      obtain ⟨n', hn', -, hshort⟩ := Pattern.open_takes w ha (v ++ x.quote :: u)
      rw [hlen, Option.some.injEq] at hn'
      have hlt := hshort u hstop
      simp only [List.length_append, List.length_cons] at hlt hmax
      omega
    | false =>
      rw [hu] at ha
      rw [Pattern.closed_takes w ha hq hstop, Option.some.injEq] at hlen
      exact ⟨rfl, hlen.symm⟩
  · cases hu : m.rule.unterminated with
    | true => rfl
    | false =>
      rw [hu] at ha
      rw [Pattern.closed_refuses w ha hq hno] at hlen
      cases hlen

/-- **A string is cut at its first unescaped quote or reported as unterminated.**  Where a string begins, with a prefix
or without, let the reading go on behind its quote.  If it stops at the same quote, the step makes a string of all up to
and with that quote, and the next call hands it out unless strings are hidden; otherwise the call fails, reports the
beginning of the string and goes nowhere.  Either way a rule for strings has won. -/
theorem strings_cut_at_quote (ht : g.table = .ok t) (hx : x ∈ g.quotes) {σ : Type} {s : Session σ} (hs : s.table = t)
    (hp : s.options.policy = .longest) (hf : s.failure = none) (hq : s.scanner.stack.top.state = x.state)
    (hr : s.scanner.rest = x.pre ++ x.quote :: rest) :
    (∀ u, quotedStop x.quote rest = x.quote :: u → ∃ v tok s', rest = v ++ x.quote :: u ∧
      s.step = (.ok (some tok), s') ∧ (s.options.skip.contains .string = false → s.next.1 = .ok (some tok)) ∧
      tok.kind = .string ∧ tok.lexeme = x.pre ++ x.quote :: (v ++ [x.quote]) ∧ tok.loc = s.scanner.loc ∧
      s'.scanner.rest = u ∧ s'.scanner.stack = s.scanner.stack) ∧
    ((∀ u, quotedStop x.quote rest ≠ x.quote :: u) →
      s.next = (.error ⟨.unterminatedRule "string", s.scanner.loc⟩,
        { s with failure := some ⟨.unterminatedRule "string", s.scanner.loc⟩ })) ∧
    ∃ m, t.choose? .longest x.state s.scanner.rest = some m ∧ m.rule.name = "string" := by
  obtain ⟨m, hm, hname, hclosed, hopen⟩ := string_wins ht hx rest
  obtain ⟨hmem, -⟩ := Table.choose?_rule hm
  obtain ⟨hkind, hstay, -⟩ := string_rule ht hx hmem hname
  rw [← hr] at hm
  have hm' : s.table.choose? s.options.policy s.scanner.stack.top.state s.scanner.rest = some m := by rw [hs, hp, hq, hm]
  refine ⟨fun u hstop => ?_, fun hno => ?_, m, hm, hname⟩
  · obtain ⟨v, hv⟩ := quotedStop_suffix x.quote rest
    rw [hstop] at hv
    obtain ⟨hu, hlen⟩ := hclosed v u hv.symm hstop
    have hclass : s.scanner.kindOf s.table m = .string := by
      rw [Scanner.kindOf, Table.classify_of_ne _ (by rw [hkind]; decide), hkind]
    have hstep := Scanner.step_of_stay hm' hu (fun _ => by rw [hclass]; decide) hstay
    have hwhole : s.scanner.rest = x.pre ++ x.quote :: (v ++ [x.quote]) ++ u := by
      rw [hr, ← hv]
      simp
    have hlen' : (x.pre ++ x.quote :: (v ++ [x.quote])).length = m.length := by
      rw [hlen]
      simp only [List.length_append, List.length_cons, List.length_nil]
      omega
    refine ⟨v, _, { s with scanner := s.scanner.skipChars m.length }, hv.symm, by rw [Session.step, hstep], ?_, hclass, ?_,
      rfl, ?_, rfl⟩
    · intro hshown
      rw [Session.next_of_token hf hstep (by rw [← hclass] at hshown; exact hshown)]
    · show s.scanner.rest.take m.length = _
      rw [hwhole, ← hlen', List.take_left]
    · show s.scanner.rest.drop m.length = u
      rw [hwhole, ← hlen', List.drop_left]
  · have hfail : s.scanner.step s.table s.options.policy =
        .fail ⟨.unterminatedRule "string", s.scanner.loc⟩ s.scanner := by
      rw [Scanner.step_of_match hm', Scanner.take, if_pos (hopen hno), hname]
    exact Session.next_of_fail hf hfail

/-- A string with a prefix and an escaped quote, and one that the end of its line cuts off. -/
theorem escaped_and_cut_off :
    ∃ t, cTable = .ok t ∧
      (∃ tok s', (Session.new t "u8\"a\\\"b\" \"".toList "t" {} ()).step = (.ok (some tok), s') ∧
        tok.lexeme = "u8\"a\\\"b\"".toList ∧ s'.scanner.rest = " \"".toList) ∧
      (Session.new t "L\"a\\\"\n\"".toList "t" {} ()).next.1 = .error ⟨.unterminatedRule "string", .start "t"⟩ := by
  obtain ⟨t, ht, -⟩ := exists_ok_of_any (beginnings_decided .c)
  have hbase : t.initial = base := initial_eq ht
  have hrest : (Session.new t "u8\"a\\\"b\" \"".toList "t" {} ()).scanner.rest =
      ['u', '8'] ++ '"' :: "a\\\"b\" \"".toList := rfl
  have hcutRest : (Session.new t "L\"a\\\"\n\"".toList "t" {} ()).scanner.rest = ['L'] ++ '"' :: "a\\\"\n\"".toList := rfl
  obtain ⟨hclosed, -⟩ := strings_cut_at_quote (x := ⟨base, ['u', '8'], '"'⟩) ht (by decide) rfl rfl rfl hbase hrest
  obtain ⟨-, hopen, -⟩ := strings_cut_at_quote (x := ⟨base, ['L'], '"'⟩) ht (by decide) rfl rfl rfl hbase hcutRest
  have hstop : quotedStop '"' "a\\\"b\" \"".toList = '"' :: " \"".toList := by decide +kernel
  have hcut : quotedStop '"' "a\\\"\n\"".toList = "\n\"".toList := by decide +kernel
  obtain ⟨v, tok, s', hv, hstep, -, -, hlex, -, hrest, -⟩ := hclosed " \"".toList hstop
  have hsplit : "a\\\"b\" \"".toList = "a\\\"b".toList ++ '"' :: " \"".toList := by decide
  obtain rfl : v = "a\\\"b".toList := List.append_cancel_right (hv.symm.trans hsplit)
  exact ⟨t, ht, ⟨tok, s', hstep, hlex, hrest⟩, congrArg Prod.fst (hopen fun u hu => by rw [hcut] at hu; cases hu)⟩

end Grammar
end ModalLexer
