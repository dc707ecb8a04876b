import ModalLexer.Grammar.Trivia
/-!
# A C-like grammar

C with the few punctuators of C++ that headers use.  A preprocessor directive is one token to the end of its line; it
runs on over continued lines and stops before a comment.
-/
namespace ModalLexer
namespace Grammar
namespace C

def extensions : List String := ["c", "h", "cc", "cpp", "hpp"]

def code : List String := ["DEFAULT"]

def keywords : List String := [
  "auto", "break", "case", "char", "const", "continue", "default", "do", "double", "else",
  "enum", "extern", "float", "for", "goto", "if", "inline", "int", "long", "register",
  "restrict", "return", "short", "signed", "sizeof", "static", "struct", "switch", "typedef",
  "union", "unsigned", "void", "volatile", "while", "_Alignas", "_Alignof", "_Atomic",
  "_Bool", "_Complex", "_Generic", "_Imaginary", "_Noreturn", "_Static_assert",
  "_Thread_local"]

def punctuators : List String := [
  "\x7b", "\x7d", "(", ")", "[", "]", ";", ",", ".", "...", "->", "?", ":", "::", ".*", "->*",
  "++", "--", "&", "*", "+", "-", "~", "!", "/", "%", "<<", ">>", "<", ">", "<=", ">=",
  "==", "!=", "^", "|", "&&", "||", "=", "*=", "/=", "%=", "+=", "-=", "<<=", ">>=",
  "&=", "^=", "|="]

def lineContinuation : RuleSpec := RuleSpec.regex "line-continuation" "\\\\(?:\\r\\n|[\\n\\r])" .whitespace

def preprocessor : RuleSpec :=
  RuleSpec.regex "preprocessor"
    "#[ \\t]*\\w*(?:{quoted}|[^\\n\\r\\\\/]|\\\\(?:\\r\\n|[\\n\\r])|\\\\[^\\n\\r]|/[^/*\\n\\r])*" .preprocessor

def number : RuleSpec :=
  RuleSpec.regex "number" ("(?:0[xX](?:{hexdigits})?(?:\\.(?:{hexdigits})?)?(?:[pP][+-]?{digits})?"
    ++ "|0[bB][01](?:'?[01])*|(?:{digits}(?:\\.(?:{digits})?)?|\\.{digits})(?:[eE][+-]?{digits})?){suffix}") .number

def char : RuleSpec := RuleSpec.regex "char" "(?:{encoding})?'(?:[^'\\\\\\n\\r]|\\\\[^\\n\\r])+'" .char

def string : RuleSpec := RuleSpec.regex "string" "(?:{encoding})?\"(?:{dqchar})*\"" .string

/-- A string that the end of its line cuts off. -/
def openString : RuleSpec := (RuleSpec.regex "string" "(?:{encoding})?\"(?:{dqchar})*" .string).unclosed

def identifier : RuleSpec := RuleSpec.regex "identifier" "[A-Za-z_][A-Za-z0-9_]*" .identifier

def builder : Builder :=
  (Builder.new "DEFAULT")
    |>.state commentState
    |>.define "encoding" "u8|u|U|L"
    |>.define "suffix" "[uUlLfF]*"
    |>.define "digits" "[0-9](?:'?[0-9])*"
    |>.define "hexdigits" "[0-9a-fA-F](?:'?[0-9a-fA-F])*"
    |>.define "dqchar" "[^\"\\\\\\n\\r]|\\\\(?:\\r\\n|[\\s\\S])"
    |>.define "quoted" "\"(?:{dqchar})*\"|'(?:[^'\\\\\\n\\r]|\\\\[^\\n\\r])*'"
    |>.addRules (blanks code)
    |>.rule lineContinuation
    |>.rule (lineComment code)
    |>.addRules (blockComment code)
    |>.addRules [preprocessor, number, char, string, openString, identifier]
    |>.punctuators punctuators
    |>.addKeywords keywords

end C
end Grammar
end ModalLexer
