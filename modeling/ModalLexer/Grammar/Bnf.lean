import ModalLexer.Grammar.Trivia
/-!
# A grammar of grammars

One table for BNF, EBNF and the sources of parser and lexer generators.  Code embedded in braces is the balanced state
`ACTION`: its text comes out in runs that brackets, strings and comments divide, and the brace that closes the block
ends the state.  The braces in which EBNF puts repetitions are read the same way.
-/
namespace ModalLexer
namespace Grammar
namespace Bnf

def extensions : List String := ["bnf", "ebnf", "g4", "y", "l"]

def actionState : String := "ACTION"

def keywords : List String := [
  "grammar", "lexer", "parser", "fragment", "import", "options", "tokens", "channels",
  "mode", "returns", "locals", "throws", "catch", "finally"]

def punctuators : List String := [
  "::=", ":", "|", ";", "->", "=", "+=", "*", "+", "?", "(", ")", "[", "]", ".", "..",
  "~", "!", ",", "^", "#"]

def starComment : RuleSpec := RuleSpec.regex "ebnf-comment" "\\(\\*(?:[^*]|\\*+[^*)])*\\*+\\)" .comment

def nonterminal : RuleSpec := RuleSpec.regex "nonterminal" "<[^<>\\n\\r]+>" .nonterminal

def directive : RuleSpec := RuleSpec.regex "directive" "%%|%{name}|@{name}(?:::{name})?" .directive

def string : RuleSpec :=
  RuleSpec.regex "string"
    "\"(?:[^\"\\\\\\n\\r]|\\\\[^\\n\\r])*\"|'(?:[^'\\\\\\n\\r]|\\\\[^\\n\\r])*'" .string

def charClass : RuleSpec := RuleSpec.regex "char-class" "\\[(?:[^\\]\\\\\\s]|\\\\[^\\n\\r])+\\]" .charClass

def actionCode : RuleSpec := RuleSpec.regex "action-code" "[^\x7b\x7d()\\[\\]\"'/%]+" .actionCode

def builder : Builder :=
  (Builder.new "DEFAULT")
    |>.balancedState actionState
    |>.state commentState
    |>.define "name" "[A-Za-z_](?:[A-Za-z0-9_]|-[A-Za-z0-9_])*"
    |>.addRules (blanks ["DEFAULT"])
    |>.rule (lineComment ["DEFAULT", actionState])
    |>.addRules (blockComment ["DEFAULT", actionState])
    |>.addRules [
      starComment,
      nonterminal,
      directive,
      (RuleSpec.literal "prologue-open" "%\x7b" .directive).push actionState,
      ((RuleSpec.literal "prologue-close" "%\x7d" .directive).within [actionState]).pop,
      string.within ["DEFAULT", actionState],
      charClass,
      RuleSpec.regex "identifier" "{name}" .identifier,
      RuleSpec.regex "number" "[0-9]+" .number,
      (RuleSpec.literal "action-open" "\x7b" .interpolationStart).push actionState,
      actionCode.within [actionState],
      (RuleSpec.literal "action-slash" "/" .actionCode).within [actionState],
      (RuleSpec.literal "action-percent" "%" .actionCode).within [actionState]]
    |>.punctuators punctuators
    |>.punctuatorsWithin ["\x7b", "\x7d", "(", ")", "[", "]"] [actionState]
    |>.addKeywords keywords

end Bnf
end Grammar
end ModalLexer
