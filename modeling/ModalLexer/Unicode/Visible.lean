import ModalLexer.Unicode.Category
import ModalLexer.Unicode.Additions
/-!
# What shows

Quoted forms write a character by its code point if it would not show as itself: because it attaches itself to the
character before it, because it prints as nothing, or because it means nothing.  Names admit what shows as a letter or a
number.  Both follow the later edition of the standard (see `additions`).
-/
namespace ModalLexer
namespace Unicode

/-- The letters of Hangul that hold a place open and print as nothing. -/
def hangulFillers : List Span := [⟨0x115f, 0x1160, 1⟩, ⟨0x3164, 0x3164, 1⟩, ⟨0xffa0, 0xffa0, 1⟩]

/-- The sound marks of halfwidth Katakana extend the character before them but take a place of their own. -/
def halfwidthSoundMarks : Span := ⟨0xff9e, 0xff9f, 1⟩

/-- A character that attaches itself to the one before it, without a place of its own. -/
def isAttached (c : Char) : Bool :=
  isOneOf [.nonspacingMark, .enclosingMark] c || Span.holds addedMarks c.toNat ||
    (Span.holds otherGraphemeExtend c.toNat && !halfwidthSoundMarks.contains c.toNat)

/-- Everything but controls, format characters, private use, the unassigned and the separators, save the blank. -/
def isPrintable (c : Char) : Bool :=
  c == ' ' || Span.holds additions c.toNat || !isOneOf (Category.others ++ Category.separators) c

/-- Whether a character shows as itself. -/
def isVisible (c : Char) : Bool := isPrintable c && !isAttached c && !Span.holds hangulFillers c.toNat

/-- What a name may begin with, beside marks of its own. -/
def isNameLetter (c : Char) : Bool := isAlphabetic c || Span.holds addedAlphabetic c.toNat

/-- What a name may go on with, beside marks of its own. -/
def isNameAlphanumeric (c : Char) : Bool :=
  isNameLetter c || isOneOf Category.numbers c || Span.holds addedNumbers c.toNat

end Unicode
end ModalLexer
