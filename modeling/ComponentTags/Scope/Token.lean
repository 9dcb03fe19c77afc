/-
# Tokens

The inside of a template span as a list of tokens.  A token ends where it can go no further: blanks
and names are taken as long as possible, a string literal goes up to its closing quote or, without
one, to the end, and of the signs only six pairs stay together.  Nothing is dropped, so the texts of
the tokens joined give the inside of the span back.
-/
import ComponentTags.Span

namespace ComponentTags

/-- The kinds of tokens. -/
inductive TokenKind where
  /-- Blanks. -/
  | blank
  /-- A string literal with its quotes. -/
  | string
  /-- A number, or what begins like one. -/
  | number
  /-- A name or a keyword. -/
  | name
  /-- A sign, or a pair of signs that belong together. -/
  | sign
deriving DecidableEq, Repr

/-- A token: a piece of a span with its kind. -/
structure Token where
  /-- The kind of the token. -/
  kind : TokenKind
  /-- The characters of the token. -/
  text : Text
deriving DecidableEq, Repr

namespace Token

/-- Whether a token is a certain sign. -/
def isSign (t : Token) (text : Text) : Bool := t.kind = .sign && t.text = text

/-- Whether a token is a certain name. -/
def isNamed (t : Token) (text : Text) : Bool := t.kind = .name && t.text = text

/-- Whether a token is a name. -/
def isName (t : Token) : Bool := t.kind = .name

/-- Whether a token is more than blanks. -/
def isSignificant (t : Token) : Bool := t.kind ≠ .blank

/-- Whether a token opens a bracket. -/
def opens (t : Token) : Bool := t.isSign "(" || t.isSign "[" || t.isSign "\x7b"

/-- Whether a token closes a bracket. -/
def closes (t : Token) : Bool := t.isSign ")" || t.isSign "]" || t.isSign "\x7d"

/-- The pairs of signs that are one token. -/
def pairs : List Text := ["**", "//", "==", "!=", "<=", ">="]

/-- Whether a character may follow the first digit of a number. -/
def isNumberChar (c : Char) : Bool := Text.isAlphanumeric c || c == '.' || c == '_'

/-- The kind of the token that begins with a character, and the number of characters behind the first
that belong to it. -/
def shape (c : Char) (rest : Text) : TokenKind × Nat :=
  if Text.isBlank c then (.blank, (rest.takeWhile Text.isBlank).length)
  else if Span.isQuote c then (.string, Span.literalLength c 0 rest)
  else if Text.isDigit c then (.number, (rest.takeWhile isNumberChar).length)
  else if Text.isLetter c || c == '_' then (.name, (rest.takeWhile Text.isWordChar).length)
  else (.sign, if pairs.any (·.isPrefixOf (c :: rest)) then 1 else 0)

end Token

/-- The tokens of a text. -/
def tokens : Text → List Token
  | [] => []
  | c :: rest =>
    ⟨(Token.shape c rest).1, c :: rest.take (Token.shape c rest).2⟩ ::
      tokens (rest.drop (Token.shape c rest).2)
termination_by text => text.length
decreasing_by all_goals (simp only [List.length_cons, List.length_drop]; omega)

/-- The tokens that are more than blanks. -/
def significant (ts : List Token) : List Token := ts.filter Token.isSignificant

/-- The words that are never variables of a template. -/
def keywords : List Text :=
  (["and", "or", "not", "in", "is", "if", "else",
    "true", "false", "none", "True", "False", "None",
    "as", "with", "without", "context", "ignore", "missing",
    "recursive", "import", "from", "self", "super"] : List String).map String.toList

/-- The beginning of the names that lowering makes use of. -/
def reservedStart : Text := "glam__"

/-- Whether a name belongs to those that lowering makes use of. -/
def isReserved (name : Text) : Bool := reservedStart.isPrefixOf name

/-- The name of the component whose template is running. -/
def thisName : Text := "this"

/-- The name of the component that is rendered as a whole. -/
def rootName : Text := "root"

/-! ## Small facts -/

theorem tokens_join (text : Text) : (tokens text).flatMap Token.text = text := by
  fun_induction tokens text with
  | case1 => rfl
  | case2 c rest ih => simp [ih]

theorem tokens_ne_nil {text : Text} : ∀ t ∈ tokens text, t.text ≠ [] := by
  fun_induction tokens text with
  | case1 => simp
  | case2 c rest ih => simpa using ih

end ComponentTags
