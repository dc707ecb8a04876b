import ModalLexer.Token
/-!
# Tokens as JSON

Structured output is JSON laid out over lines, two blanks deeper for each level.  A value is the list of its lines, so
that a composite value is put together from those of its parts: an array or an object encloses the indented lines of its
members, all but the last of which end in a comma, and an empty array is a single line.
-/
namespace ModalLexer
namespace Json

/-- A value, line by line. -/
abbrev Lines := List String

def hexDigit (n : Nat) : Char := Nat.digitChar n

/-- How a character is written in a string.  Everything from the blank on stands for itself, but for the quote and the
backslash. -/
def escape (c : Char) : Text :=
  if c = '"' then ['\\', '"']
  else if c = '\\' then ['\\', '\\']
  else if c = '\x08' then ['\\', 'b']
  else if c = '\x0c' then ['\\', 'f']
  else if c = '\n' then ['\\', 'n']
  else if c = '\r' then ['\\', 'r']
  else if c = '\t' then ['\\', 't']
  else if c.toNat < 0x20 then ['\\', 'u', '0', '0', hexDigit (c.toNat / 16), hexDigit (c.toNat % 16)]
  else [c]

def ofText (t : Text) : Lines := [String.ofList ('"' :: t.flatMap escape ++ ['"'])]

def ofString (s : String) : Lines := ofText s.toList

def ofNat (n : Nat) : Lines := [toString n]

def indent (ls : Lines) : Lines := ls.map ("  " ++ ·)

def comma : Lines → Lines
  | [] => []
  | [l] => [l ++ ","]
  | l :: ls => l :: comma ls

/-- Members one after another, with commas between them. -/
def members : List Lines → Lines
  | [] => []
  | [m] => m
  | m :: ms => comma m ++ members ms

def array (ms : List Lines) : Lines :=
  if ms.isEmpty then ["[]"] else "[" :: indent (members ms) ++ ["]"]

def field (name : String) : Lines → Lines
  | [] => []
  | l :: ls => ("\"" ++ name ++ "\": " ++ l) :: ls

def object (fs : List (String × Lines)) : Lines :=
  "\x7b" :: indent (members (fs.map fun f => field f.1 f.2)) ++ ["\x7d"]

def ofLocation (l : Location) : Lines :=
  object [("offset", ofNat l.offset), ("line", ofNat l.line), ("column", ofNat l.column), ("source", ofString l.source)]

def ofToken (t : Token) : Lines :=
  object [("kind", ofString t.kind.label), ("rule", ofNat t.rule), ("lexeme", ofText t.lexeme),
    ("byte_length", ofNat t.bytes), ("loc", ofLocation t.loc), ("state", ofString t.state)]

def ofTokens (ts : List Token) : Lines := array (ts.map ofToken)

end Json
end ModalLexer
