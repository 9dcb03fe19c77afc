/-
# Template spans

How far a template span reaches that begins at the front of a text.  Inside expressions and
statements string literals are skipped and brackets are counted, so a closing delimiter inside a
literal or an open bracket does not end the span.  A raw block is one span up to its closing
statement.  All functions of this file look only at the text in front of them and answer with a
number of characters; the places in their faults are counted from the front of that text.
-/
import ComponentTags.Error
import ComponentTags.Text.Classes

namespace ComponentTags.Span

/-! ## String literals -/

/-- The quotes of string literals. -/
def isQuote (c : Char) : Bool := c == '\'' || c == '"'

/-- The number of characters of a string literal, of which `count` are already passed: up to its
closing quote, or to the end of the text if there is none.  A backslash takes the next character
with it. -/
def literalLength (quote : Char) (count : Nat) : Text → Nat
  | [] => count
  | ['\\'] => count + 1
  | '\\' :: _ :: rest => literalLength quote (count + 2) rest
  | c :: rest => if c = quote then count + 1 else literalLength quote (count + 1) rest

/-- The number of characters of the string literal that the first character opens. -/
def stringLength? : Text → Option Nat
  | [] => none
  | quote :: rest => some (literalLength quote 1 rest)

/-! ## The kind of a span -/

/-- The kind of the span that begins at the front of a text, if any.  A text may begin with several
opening delimiters; the expression comes first and the comment last. -/
def kindAt? (d : Delimiters) (text : Text) : Option SpanKind :=
  if d.expressionStart.isPrefixOf text then some .expression
  else if d.statementStart.isPrefixOf text then some .statement
  else if d.commentStart.isPrefixOf text then some .comment
  else none

/-- The signs that control blanks around a span. -/
def isControlSign (c : Char) : Bool := c == '-' || c == '+'

/-- The text without a control sign at its front. -/
def dropControlSign : Text → Text
  | [] => []
  | c :: rest => if isControlSign c then rest else c :: rest

/-- The first word of the statement that begins at the front of a text. -/
def statementName (d : Delimiters) (text : Text) : Text :=
  (Text.trimStart (dropControlSign (text.drop d.statementStart.length))).takeWhile Text.isWordChar

/-! ## Raw blocks -/

/-- The number of characters up to the end of the statement that closes a raw block, of which `count`
are already passed. -/
def rawLength (d : Delimiters) (count : Nat) : Text → Option Nat
  | [] => none
  | c :: rest =>
    if d.statementStart.isPrefixOf (c :: rest) then
      if statementName d (c :: rest) = "endraw" then
        (Text.indexAfter? d.statementEnd d.statementStart.length (c :: rest)).map
          fun n => count + n + d.statementEnd.length
      else
        rawLength d (count + 1 + (d.statementStart.length - 1))
          (rest.drop (d.statementStart.length - 1))
    else rawLength d (count + 1) rest
termination_by text => text.length
decreasing_by all_goals (simp only [List.length_cons, List.length_drop]; omega)

/-- The number of characters of the raw block whose opening statement begins a text. -/
def rawBlockLength (d : Delimiters) (text : Text) : Except Fault Nat :=
  match Text.indexAfter? d.statementEnd d.statementStart.length text with
  | none => .error ⟨0, .unterminatedRawBlock⟩
  | some n =>
    match rawLength d n (text.drop n) with
    | none => .error ⟨0, .unterminatedRawBlock⟩
    | some length => .ok length

/-! ## Spans -/

/-- Opening brackets. -/
def isOpening (c : Char) : Bool := c == '(' || c == '[' || c == '\x7b'

/-- Closing brackets. -/
def isClosing (c : Char) : Bool := c == ')' || c == ']' || c == '\x7d'

/-- The number of open brackets behind a character. -/
def depthAfter (depth : Nat) (c : Char) : Nat :=
  if isOpening c then depth + 1 else if isClosing c then depth - 1 else depth

/-- The number of characters of an expression or a statement, of which `count` are already passed and
`depth` brackets are open.  With `rejectNested` no expression may begin inside it. -/
def bodyLength (d : Delimiters) (kind : SpanKind) (rejectNested : Bool) (depth count : Nat) :
    Text → Except Fault Nat
  | [] => .error ⟨0, .unterminatedSpan kind⟩
  | c :: rest =>
    if isQuote c then
      let n := literalLength c 0 rest
      bodyLength d kind rejectNested depth (count + 1 + n) (rest.drop n)
    else if depth = 0 && (d.stop kind).isPrefixOf (c :: rest) then
      .ok (count + (d.stop kind).length)
    else if rejectNested && d.expressionStart.isPrefixOf (c :: rest) then
      .error ⟨count, .nestedExpression⟩
    else
      bodyLength d kind rejectNested (depthAfter depth c) (count + 1) rest
termination_by text => text.length
decreasing_by all_goals (simp only [List.length_cons, List.length_drop]; omega)

/-- The number of characters of the span that begins at the front of a text. -/
def length (d : Delimiters) (rejectNested : Bool) (text : Text) : Except Fault Nat :=
  match kindAt? d text with
  | none => .error ⟨0, .noSpan⟩
  | some .comment =>
    match Text.indexAfter? d.commentEnd d.commentStart.length text with
    | none => .error ⟨0, .unterminatedSpan .comment⟩
    | some n => .ok (n + d.commentEnd.length)
  | some kind =>
    if kind = .statement && statementName d text = "raw" then rawBlockLength d text
    else
      let n := (d.start kind).length
      bodyLength d kind rejectNested 0 n (text.drop n)

/-! ## The parts of a span -/

/-- A span taken apart.  The signs that control blanks belong to the delimiters. -/
structure Parts where
  /-- The opening delimiter with its control sign. -/
  opening : Text
  /-- What is between the delimiters. -/
  body : Text
  /-- The closing delimiter with its control sign. -/
  closing : Text
deriving DecidableEq, Repr

/-- A span of a kind taken apart.  Where the text is too short for both delimiters, the bounds that
fall in front of it count from its end. -/
def split (d : Delimiters) (kind : SpanKind) (span : Text) : Parts :=
  let first := (d.start kind).length
  let last : Int := span.length - (d.stop kind).length
  let opening := span.take first
  let closing := Text.sliceFrom span last
  let body := Text.slice span first last
  let (opening, body) :=
    match body with
    | c :: rest => if isControlSign c then (opening ++ [c], rest) else (opening, body)
    | [] => (opening, body)
  match body.getLast? with
  | some c =>
    if isControlSign c then ⟨opening, body.dropLast, c :: closing⟩ else ⟨opening, body, closing⟩
  | none => ⟨opening, body, closing⟩

end ComponentTags.Span
