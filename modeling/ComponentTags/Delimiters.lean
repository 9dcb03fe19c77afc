/-
# Delimiters

A template is literal text with spans in it.  A span is an expression whose value is printed, a
statement, or a comment, and each kind has an opening and a closing delimiter that an author may
choose freely.
-/
import ComponentTags.Text.Basic

namespace ComponentTags

/-- The kinds of template spans. -/
inductive SpanKind where
  /-- A span whose value is printed. -/
  | expression
  /-- A span that controls the template. -/
  | statement
  /-- A span that is ignored. -/
  | comment
deriving DecidableEq, Repr

/-- The word for a kind of span in messages. -/
def SpanKind.word : SpanKind → Text
  | .expression => "expression"
  | .statement => "statement"
  | .comment => "comment"

/-- The delimiters of the three kinds of spans. -/
structure Delimiters where
  /-- Opens an expression. -/
  expressionStart : Text := "\x7b\x7b"
  /-- Closes an expression. -/
  expressionEnd : Text := "\x7d\x7d"
  /-- Opens a statement. -/
  statementStart : Text := "\x7b%"
  /-- Closes a statement. -/
  statementEnd : Text := "%\x7d"
  /-- Opens a comment. -/
  commentStart : Text := "\x7b#"
  /-- Closes a comment. -/
  commentEnd : Text := "#\x7d"
deriving DecidableEq, Repr

namespace Delimiters

/-- The opening delimiter of a kind of span. -/
def start (d : Delimiters) : SpanKind → Text
  | .expression => d.expressionStart
  | .statement => d.statementStart
  | .comment => d.commentStart

/-- The closing delimiter of a kind of span. -/
def stop (d : Delimiters) : SpanKind → Text
  | .expression => d.expressionEnd
  | .statement => d.statementEnd
  | .comment => d.commentEnd

/-- No delimiter is empty.  Otherwise a span may have no characters at all, and a scanner would not
get past it. -/
def NonEmpty (d : Delimiters) : Prop := ∀ kind, d.start kind ≠ [] ∧ d.stop kind ≠ []

/-- The delimiters that a template has when its author chose none. -/
def standard : Delimiters := {}

end Delimiters

end ComponentTags
