/-!
# Token kinds

Kinds are shared by every grammar.  A kind has a `name`, which is how it is written in listings and read back
(`ofName?`), and a `label`, which is how structured output writes it.  A `KindSet` is a vector of bits, one per kind, so
that two sets are equal exactly if they hold the same kinds.
-/
namespace ModalLexer

inductive Kind
  | whitespace | newline | comment
  | identifier | keyword | punctuator
  | number | string | char | regexp
  | templateDelimiter | templateText | interpolationStart | interpolationEnd
  | preprocessor | nonterminal | directive | charClass | actionCode
  | error
  deriving DecidableEq, Repr

namespace Kind

def all : List Kind :=
  [.whitespace, .newline, .comment, .identifier, .keyword, .punctuator, .number, .string, .char, .regexp,
   .templateDelimiter, .templateText, .interpolationStart, .interpolationEnd,
   .preprocessor, .nonterminal, .directive, .charClass, .actionCode, .error]

def name : Kind → String
  | whitespace => "whitespace"
  | newline => "newline"
  | comment => "comment"
  | identifier => "identifier"
  | keyword => "keyword"
  | punctuator => "punctuator"
  | number => "number"
  | string => "string"
  | char => "char"
  | regexp => "regexp"
  | templateDelimiter => "template-delimiter"
  | templateText => "template-text"
  | interpolationStart => "interpolation-start"
  | interpolationEnd => "interpolation-end"
  | preprocessor => "preprocessor"
  | nonterminal => "nonterminal"
  | directive => "directive"
  | charClass => "char-class"
  | actionCode => "action-code"
  | error => "error"

def ofName? (s : String) : Option Kind := all.find? (·.name == s)

/-- The name in capitalised words, as structured output spells it. -/
def label : Kind → String
  | whitespace => "Whitespace"
  | newline => "Newline"
  | comment => "Comment"
  | identifier => "Identifier"
  | keyword => "Keyword"
  | punctuator => "Punctuator"
  | number => "Number"
  | string => "String"
  | char => "Char"
  | regexp => "Regexp"
  | templateDelimiter => "TemplateDelimiter"
  | templateText => "TemplateText"
  | interpolationStart => "InterpolationStart"
  | interpolationEnd => "InterpolationEnd"
  | preprocessor => "Preprocessor"
  | nonterminal => "Nonterminal"
  | directive => "Directive"
  | charClass => "CharClass"
  | actionCode => "ActionCode"
  | error => "Error"

/-- The place of a kind in `all`. -/
def index (k : Kind) : Nat := all.idxOf k

instance : ToString Kind := ⟨name⟩

theorem mem_all (k : Kind) : k ∈ all := by cases k <;> decide

theorem index_lt (k : Kind) : k.index < 20 := by cases k <;> decide

theorem getElem?_index (k : Kind) : all[k.index]? = some k := by cases k <;> decide

theorem index_injective {j k : Kind} (h : j.index = k.index) : j = k :=
  Option.some.inj ((getElem?_index j).symm.trans (h ▸ getElem?_index k))

theorem ofName?_name (k : Kind) : ofName? k.name = some k := by cases k <;> decide

end Kind

structure KindSet where
  bits : BitVec 20
  deriving DecidableEq, Repr

namespace KindSet

def empty : KindSet := ⟨0⟩

def insert (s : KindSet) (k : Kind) : KindSet := ⟨s.bits ||| BitVec.twoPow 20 k.index⟩

def erase (s : KindSet) (k : Kind) : KindSet := ⟨s.bits &&& ~~~ BitVec.twoPow 20 k.index⟩

def contains (s : KindSet) (k : Kind) : Bool := s.bits.getLsbD k.index

def ofList (ks : List Kind) : KindSet := ks.foldl insert empty

/-- The kinds of a set, in the order of `Kind.all`. -/
def toList (s : KindSet) : List Kind := Kind.all.filter s.contains

def isEmpty (s : KindSet) : Bool := s.bits == 0

/-- Whitespace, newlines and comments. -/
def trivia : KindSet := ofList [.whitespace, .newline, .comment]

@[simp] theorem contains_empty (k : Kind) : empty.contains k = false := by simp [empty, contains]

theorem twoPow_index (j k : Kind) : (BitVec.twoPow 20 j.index).getLsbD k.index = decide (j = k) := by
  have := j.index_lt
  rw [BitVec.getLsbD_twoPow, decide_eq_true this, Bool.true_and, decide_eq_decide]
  exact ⟨Kind.index_injective, fun h => h ▸ rfl⟩

@[simp] theorem contains_insert (s : KindSet) (j k : Kind) :
    (s.insert j).contains k = (s.contains k || decide (j = k)) := by
  rw [contains, insert, BitVec.getLsbD_or, twoPow_index, contains]

@[simp] theorem contains_erase (s : KindSet) (j k : Kind) :
    (s.erase j).contains k = (s.contains k && !decide (j = k)) := by
  rw [contains, erase, BitVec.getLsbD_and, BitVec.getLsbD_not, twoPow_index, contains,
    decide_eq_true k.index_lt, Bool.true_and]

theorem mem_toList {s : KindSet} {k : Kind} : k ∈ s.toList ↔ s.contains k = true := by
  simp [toList, Kind.mem_all]

end KindSet
end ModalLexer
