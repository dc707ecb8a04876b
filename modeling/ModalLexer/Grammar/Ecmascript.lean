import ModalLexer.Grammar.Trivia
/-!
# An ECMAScript-like grammar

Besides ordinary code there are four states.  `TEMPLATE` is the inside of a template literal, and `INTERPOLATION` the
inside of a substitution in it, balanced so that it ends at its own brace.  `COMMENT` is the inside of a block comment.
`REGEXP` is never entered by a rule: whether a slash divides or begins a regular expression depends on what came before,
so it is entered from outside, scans one literal with its flags, and is left again.
-/
namespace ModalLexer
namespace Grammar
namespace Ecmascript

def extensions : List String := ["js", "mjs", "cjs", "ts"]

def templateState : String := "TEMPLATE"

def interpolationState : String := "INTERPOLATION"

def regexpState : String := "REGEXP"

/-- Where code stands. -/
def code : List String := ["DEFAULT", interpolationState]

/-- Where trivia may precede the next token. -/
def spaced : List String := ["DEFAULT", interpolationState, regexpState]

def keywords : List String := [
  "await", "break", "case", "catch", "class", "const", "continue", "debugger", "default",
  "delete", "do", "else", "enum", "export", "extends", "false", "finally", "for", "function",
  "if", "import", "in", "instanceof", "let", "new", "null", "return", "static", "super",
  "switch", "this", "throw", "true", "try", "typeof", "var", "void", "while", "with", "yield"]

def punctuators : List String := [
  "\x7b", "\x7d", "(", ")", "[", "]", ";", ",", ".", "...", "?", ":", "=>",
  "<", ">", "<=", ">=", "==", "!=", "===", "!==",
  "+", "-", "*", "/", "%", "**", "++", "--",
  "<<", ">>", ">>>", "&", "|", "^", "!", "~", "&&", "||", "??",
  "=", "+=", "-=", "*=", "/=", "%=", "**=", "<<=", ">>=", ">>>=",
  "&=", "|=", "^=", "&&=", "||=", "??="]

/-- The punctuator `?.`, unless a digit follows: then the question mark belongs to a conditional and the point to a
number. -/
def optionalChain : Recogniser
  | '?' :: '.' :: r => if r.head?.any Char.isDigit then none else some 2
  | _ => none

def number : RuleSpec :=
  RuleSpec.regex "number" ("0[xX][0-9a-fA-F](?:_?[0-9a-fA-F])*n?|0[oO][0-7](?:_?[0-7])*n?|0[bB][01](?:_?[01])*n?"
    ++ "|{digits}n|(?:{digits}(?:\\.(?:{digits})?)?|\\.{digits})(?:{exponent})?") .number

def string : RuleSpec := RuleSpec.regex "string" "\"(?:{dqchar})*\"|'(?:{sqchar})*'" .string

/-- A string that the end of its line cuts off. -/
def openString : RuleSpec := (RuleSpec.regex "string" "\"(?:{dqchar})*|'(?:{sqchar})*" .string).unclosed

def identifier : RuleSpec := RuleSpec.regex "identifier" "#?(?:{idstart})(?:{idpart})*" .identifier

def templateText : RuleSpec :=
  RuleSpec.regex "template-text" "(?:[^`\\\\$]|\\\\[\\s\\S]|\\$(?:[^\x7b`\\\\$]|\\\\[\\s\\S]))+" .templateText

def regexpBody : RuleSpec :=
  RuleSpec.regex "regexp-body" ("/(?:[^*/\\\\\\[\\n\\r]|\\\\[^\\n\\r]|{reclass})"
    ++ "(?:[^/\\\\\\[\\n\\r]|\\\\[^\\n\\r]|{reclass})*/[A-Za-z]*") .regexp

def builder : Builder :=
  (Builder.new "DEFAULT")
    |>.state templateState
    |>.balancedState interpolationState
    |>.state commentState
    |>.state regexpState
    |>.define "idstart" "[\\p\x7bL\x7d\\p\x7bNl\x7d_$]|\\\\u[0-9a-fA-F]\x7b4\x7d"
    |>.define "idpart" ("[\\p\x7bL\x7d\\p\x7bNl\x7d\\p\x7bMn\x7d\\p\x7bMc\x7d\\p\x7bNd\x7d\\p\x7bPc\x7d_$"
      ++ "\\x\x7b200C\x7d\\x\x7b200D\x7d]|\\\\u[0-9a-fA-F]\x7b4\x7d")
    |>.define "digits" "[0-9](?:_?[0-9])*"
    |>.define "exponent" "[eE][+-]?{digits}"
    |>.define "dqchar" "[^\"\\\\\\n\\r]|\\\\(?:\\r\\n|[\\s\\S])"
    |>.define "sqchar" "[^'\\\\\\n\\r]|\\\\(?:\\r\\n|[\\s\\S])"
    |>.define "reclass" "\\[(?:[^\\]\\\\\\n\\r]|\\\\[^\\n\\r])*\\]"
    |>.addRules (blanks spaced)
    |>.rule (lineComment spaced)
    |>.addRules (blockComment spaced)
    |>.addRules [number.within code, string.within code, openString.within code, identifier.within code]
    |>.addRules [
      ((RuleSpec.literal "template-open" "`" .templateDelimiter).within code).push templateState,
      ((RuleSpec.literal "template-close" "`" .templateDelimiter).within [templateState]).pop,
      templateText.within [templateState],
      (RuleSpec.literal "template-dollar" "$" .templateText).within [templateState],
      ((RuleSpec.literal "interpolation-open" "$\x7b" .interpolationStart).within [templateState]).push
        interpolationState,
      (regexpBody.within [regexpState]).pop,
      (RuleSpec.scan "?." optionalChain .punctuator).within code]
    |>.punctuatorsWithin punctuators code
    |>.addKeywords keywords

end Ecmascript
end Grammar
end ModalLexer
