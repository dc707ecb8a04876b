import ModalLexer.Unicode.Letters
import ModalLexer.Unicode.Marks
import ModalLexer.Unicode.Numbers
import ModalLexer.Unicode.Punctuation
import ModalLexer.Unicode.Symbols
import ModalLexer.Unicode.Separators
import ModalLexer.Unicode.Properties
import ModalLexer.Unicode.Ranges
/-!
# General categories and the properties built on them

Every character has one general category.  The assigned ones are read off their spans; a character in none of them is
unassigned.  A surrogate is no character, so that category is absent.  Below them stand the properties that lexing
needs: word characters (what `\w` admits), blanks (`\s`) and the alphabetic characters.
-/
namespace ModalLexer
namespace Unicode

inductive Category
  | uppercaseLetter | lowercaseLetter | titlecaseLetter | modifierLetter | otherLetter
  | nonspacingMark | spacingMark | enclosingMark
  | decimalNumber | letterNumber | otherNumber
  | connectorPunctuation | dashPunctuation | openPunctuation | closePunctuation
  | initialPunctuation | finalPunctuation | otherPunctuation
  | mathSymbol | currencySymbol | modifierSymbol | otherSymbol
  | spaceSeparator | lineSeparator | paragraphSeparator
  | control | format | privateUse | unassigned
  deriving DecidableEq, Repr

namespace Category

def assigned : List Category :=
  [.uppercaseLetter, .lowercaseLetter, .titlecaseLetter, .modifierLetter, .otherLetter,
   .nonspacingMark, .spacingMark, .enclosingMark, .decimalNumber, .letterNumber, .otherNumber,
   .connectorPunctuation, .dashPunctuation, .openPunctuation, .closePunctuation,
   .initialPunctuation, .finalPunctuation, .otherPunctuation,
   .mathSymbol, .currencySymbol, .modifierSymbol, .otherSymbol,
   .spaceSeparator, .lineSeparator, .paragraphSeparator, .control, .format, .privateUse]

def spans : Category → List Span
  | uppercaseLetter => uppercaseLetters
  | lowercaseLetter => lowercaseLetters
  | titlecaseLetter => titlecaseLetters
  | modifierLetter => modifierLetters
  | otherLetter => otherLetters
  | nonspacingMark => nonspacingMarks
  | spacingMark => spacingMarks
  | enclosingMark => enclosingMarks
  | decimalNumber => decimalNumbers
  | letterNumber => letterNumbers
  | otherNumber => otherNumbers
  | connectorPunctuation => Unicode.connectorPunctuation
  | dashPunctuation => Unicode.dashPunctuation
  | openPunctuation => Unicode.openPunctuation
  | closePunctuation => Unicode.closePunctuation
  | initialPunctuation => Unicode.initialPunctuation
  | finalPunctuation => Unicode.finalPunctuation
  | otherPunctuation => Unicode.otherPunctuation
  | mathSymbol => mathSymbols
  | currencySymbol => currencySymbols
  | modifierSymbol => modifierSymbols
  | otherSymbol => otherSymbols
  | spaceSeparator => spaceSeparators
  | lineSeparator => lineSeparators
  | paragraphSeparator => paragraphSeparators
  | control => controls
  | format => formats
  | privateUse => Unicode.privateUse
  | unassigned => []

def contains (k : Category) (c : Char) : Bool :=
  match k with
  | unassigned => assigned.all fun a => !Span.holds a.spans c.toNat
  | k => Span.holds k.spans c.toNat

def ranges : Category → Ranges
  | unassigned => Ranges.compl (Ranges.unions (assigned.map fun a => Span.rangesOf a.spans))
  | k => Span.rangesOf k.spans

def letters : List Category :=
  [.uppercaseLetter, .lowercaseLetter, .titlecaseLetter, .modifierLetter, .otherLetter]

def casedLetters : List Category := [.uppercaseLetter, .lowercaseLetter, .titlecaseLetter]

def marks : List Category := [.nonspacingMark, .spacingMark, .enclosingMark]

def numbers : List Category := [.decimalNumber, .letterNumber, .otherNumber]

def punctuation : List Category :=
  [.connectorPunctuation, .dashPunctuation, .openPunctuation, .closePunctuation,
   .initialPunctuation, .finalPunctuation, .otherPunctuation]

def symbols : List Category := [.mathSymbol, .currencySymbol, .modifierSymbol, .otherSymbol]

def separators : List Category := [.spaceSeparator, .lineSeparator, .paragraphSeparator]

/-- Controls, format characters, private use and the unassigned. -/
def others : List Category := [.control, .format, .privateUse, .unassigned]

end Category

/-- Whether the general category of `c` is one of `ks`. -/
def isOneOf (ks : List Category) (c : Char) : Bool := ks.any (·.contains c)

def rangesOf (ks : List Category) : Ranges := Ranges.unions (ks.map (·.ranges))

def isWhiteSpace (c : Char) : Bool := Span.holds whiteSpace c.toNat

def isGreek (c : Char) : Bool := Span.holds greek c.toNat

def isAlphabetic (c : Char) : Bool :=
  isOneOf (.letterNumber :: Category.letters) c || Span.holds otherAlphabetic c.toNat

def alphabeticRanges : Ranges :=
  Ranges.union (rangesOf (.letterNumber :: Category.letters)) (Span.rangesOf otherAlphabetic)

/-- The two invisible characters that join or part their neighbours. -/
def isJoinControl (c : Char) : Bool := c == '\u200c' || c == '\u200d'

/-- What a word is made of: alphabetic characters, marks, decimal digits, connecting punctuation and the joiners. -/
def isWord (c : Char) : Bool :=
  isAlphabetic c || isOneOf (.decimalNumber :: .connectorPunctuation :: Category.marks) c || isJoinControl c

def wordRanges : Ranges :=
  Ranges.unions [alphabeticRanges, rangesOf (.decimalNumber :: .connectorPunctuation :: Category.marks), [⟨0x200c, 0x200d⟩]]

end Unicode
end ModalLexer
