import ModalLexer.Table.Builder
/-!
# Trivia

White space, line breaks and comments, as the grammars share them.  A block comment is a state of its own, so that a
text which ends inside a comment is reported at the opening of the comment.
-/
namespace ModalLexer
namespace Grammar

def commentState : String := "COMMENT"

/-- White space within a line, and line breaks, in the given states. -/
def blanks (states : List String) : List RuleSpec := [
  (RuleSpec.regex "whitespace" "[ \\t\\x0B\\x0C\\x\x7bA0\x7d\\x\x7bFEFF\x7d]+" .whitespace).within states,
  (RuleSpec.regex "newline" "\\r\\n|[\\n\\r\\x\x7b2028\x7d\\x\x7b2029\x7d]" .newline).within states]

/-- A comment from two slashes to the end of the line. -/
def lineComment (states : List String) : RuleSpec :=
  (RuleSpec.regex "line-comment" "//[^\\n\\r\\x\x7b2028\x7d\\x\x7b2029\x7d]*" .comment).within states

/-- A comment between slash and star and star and slash. -/
def blockComment (states : List String) : List RuleSpec := [
  ((RuleSpec.literal "comment-open" "/*" .comment).within states).push commentState,
  RuleSpec.regex "comment-body" "<COMMENT>(?:[^*]|\\*+[^*/])+" .comment,
  ((RuleSpec.regex "comment-close" "\\*+/" .comment).within [commentState]).pop]

end Grammar
end ModalLexer
