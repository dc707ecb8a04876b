import ModalLexer.Text
import ModalLexer.Unicode.Category
/-!
# Properties of characters, by name

A pattern asks for a property by a name such as `Lu`, `Letter` or `White_Space`.  Names are compared loosely: case,
blanks, hyphens and underscores do not count, nor does an initial `is`.  `ofName?` reads a bare name and `ofValue?` a
value of a named property, such as `Lu` of `General_Category`.
-/
namespace ModalLexer
namespace Unicode

inductive Property
  | any | ascii | assigned
  /-- The general category is one of these. -/
  | categories (ks : List Category)
  | whiteSpace | alphabetic | greek | word
  deriving DecidableEq, Repr

namespace Property

def contains : Property → Char → Bool
  | any, _ => true
  | ascii, c => decide (c.toNat < 0x80)
  | assigned, c => !Category.unassigned.contains c
  | categories ks, c => isOneOf ks c
  | whiteSpace, c => isWhiteSpace c
  | alphabetic, c => isAlphabetic c
  | greek, c => isGreek c
  | word, c => isWord c

/-- The characters that have the property, written out. -/
def ranges : Property → Ranges
  | any => [⟨0, maxCodePoint⟩]
  | ascii => [⟨0, 0x7f⟩]
  | assigned => Ranges.compl Category.unassigned.ranges
  | categories ks => rangesOf ks
  | whiteSpace => Span.rangesOf Unicode.whiteSpace
  | alphabetic => alphabeticRanges
  | greek => Span.rangesOf Unicode.greek
  | word => wordRanges

/-- The form in which names are compared. -/
def fold (name : Text) : Text :=
  let body := match name with
    | 'i' :: 's' :: r | 'I' :: 's' :: r | 'i' :: 'S' :: r | 'I' :: 'S' :: r => r
    | r => r
  let folded := (body.filter fun c => c != ' ' && c != '_' && c != '-' && c.toNat < 0x80).map Char.toLower
  if body.length < name.length && folded == ['c'] then ['i', 's', 'c'] else folded

open Category in
/-- The general categories and their unions, by every name they have. -/
def generalCategories : List (List String × List Category) := [
  (["l", "letter"], letters), (["lc", "casedletter"], casedLetters),
  (["lu", "uppercaseletter"], [uppercaseLetter]), (["ll", "lowercaseletter"], [lowercaseLetter]),
  (["lt", "titlecaseletter"], [titlecaseLetter]), (["lm", "modifierletter"], [modifierLetter]),
  (["lo", "otherletter"], [otherLetter]),
  (["m", "mark", "combiningmark"], marks), (["mn", "nonspacingmark"], [nonspacingMark]),
  (["mc", "spacingmark"], [spacingMark]), (["me", "enclosingmark"], [enclosingMark]),
  (["n", "number"], numbers), (["nd", "decimalnumber", "digit"], [decimalNumber]),
  (["nl", "letternumber"], [letterNumber]), (["no", "othernumber"], [otherNumber]),
  (["p", "punctuation", "punct"], punctuation),
  (["pc", "connectorpunctuation"], [Category.connectorPunctuation]),
  (["pd", "dashpunctuation"], [Category.dashPunctuation]),
  (["ps", "openpunctuation"], [Category.openPunctuation]),
  (["pe", "closepunctuation"], [Category.closePunctuation]),
  (["pi", "initialpunctuation"], [Category.initialPunctuation]),
  (["pf", "finalpunctuation"], [Category.finalPunctuation]),
  (["po", "otherpunctuation"], [Category.otherPunctuation]),
  (["s", "symbol"], symbols), (["sm", "mathsymbol"], [mathSymbol]), (["sc", "currencysymbol"], [currencySymbol]),
  (["sk", "modifiersymbol"], [modifierSymbol]), (["so", "othersymbol"], [otherSymbol]),
  (["z", "separator"], separators), (["zs", "spaceseparator"], [spaceSeparator]),
  (["zl", "lineseparator"], [lineSeparator]), (["zp", "paragraphseparator"], [paragraphSeparator]),
  (["c", "other"], others), (["cc", "control", "cntrl"], [control]), (["cf", "format"], [format]),
  (["co", "privateuse"], [Category.privateUse]), (["cn", "unassigned"], [unassigned])]

def category? (name : String) : Option Property :=
  if name = "any" then some .any
  else if name = "assigned" then some .assigned
  else if name = "ascii" then some .ascii
  else (generalCategories.find? (·.1.contains name)).map fun e => .categories e.2

def script? (name : String) : Option Property :=
  if name = "greek" || name = "grek" then some .greek else none

def binary? (name : String) : Option Property :=
  if ["whitespace", "wspace", "space"].contains name then some .whiteSpace
  else if ["alphabetic", "alpha"].contains name then some .alphabetic
  else none

def ofName? (name : Text) : Option Property :=
  let n := String.ofList (fold name)
  (binary? n).or ((category? n).or (script? n))

def ofValue? (name value : Text) : Option Property :=
  let n := String.ofList (fold name)
  let v := String.ofList (fold value)
  if n = "gc" || n = "generalcategory" then category? v
  else if n = "sc" || n = "script" then script? v
  else none

end Property
end Unicode
end ModalLexer
