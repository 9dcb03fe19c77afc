/-
# Sources

A template's text as its author sees it, with its delimiters and its name: the questions that can be
asked about a place of it.  Places are counted from the front of the text, and a place behind the end
is allowed everywhere.
-/
import ComponentTags.Span

namespace ComponentTags

/-- The text of a template with its delimiters and its name. -/
structure Source where
  /-- The text. -/
  text : Text
  /-- The delimiters of its spans. -/
  delimiters : Delimiters := .standard
  /-- The name of the template, if it has one. -/
  name : Option Text := none

namespace Source

/-- The number of characters. -/
def length (s : Source) : Nat := s.text.length

/-- Whether a place is at the end of the text or behind it. -/
def atEnd (s : Source) (place : Nat) : Bool := s.length ≤ place

/-- What follows a place. -/
def rest (s : Source) (place : Nat) : Text := s.text.drop place

/-- The character at a distance from a place, if the text has one there. -/
def peek? (s : Source) (place : Nat) (distance : Int := 0) : Option Char :=
  let i := (place : Int) + distance
  if i < 0 then none else s.text[i.toNat]?

/-- Whether a text follows a place.  The empty text follows every place of the text and its end. -/
def startsWith (s : Source) (place : Nat) (text : Text) : Bool :=
  place ≤ s.length && text.isPrefixOf (s.rest place)

/-- The place behind the blanks that follow a place. -/
def skipBlanks (s : Source) (place : Nat) : Nat :=
  place + ((s.rest place).takeWhile Text.isBlank).length

/-- The kind of the span that begins at a place. -/
def spanKind? (s : Source) (place : Nat) : Option SpanKind :=
  if place ≤ s.length then Span.kindAt? s.delimiters (s.rest place) else none

/-- The first word of the statement that begins at a place. -/
def statementName (s : Source) (place : Nat) : Text := Span.statementName s.delimiters (s.rest place)

/-- The error that a cause means at a place. -/
def error (s : Source) (place : Int) (cause : Malformed) : ParseError :=
  ⟨cause, place, some s.text, s.name⟩

/-- A length found behind a place, as the place behind it. -/
def placeAfter (s : Source) (place : Nat) (found : Except Fault Nat) : Except ParseError Nat :=
  match found with
  | .ok n => .ok (place + n)
  | .error f => .error (.ofFault s.text s.name (f.shift place))

/-- The place behind the span that begins at a place. -/
def skipSpan (s : Source) (place : Nat) (rejectNested : Bool := false) : Except ParseError Nat :=
  if (s.spanKind? place).isSome then
    s.placeAfter place (Span.length s.delimiters rejectNested (s.rest place))
  else .error (s.error place .noSpan)

/-- The place behind the raw block whose opening statement begins at a place. -/
def skipRawBlock (s : Source) (place : Nat) : Except ParseError Nat :=
  s.placeAfter place (Span.rawBlockLength s.delimiters (s.rest place))

/-- The place behind the string literal that opens at a place; none if no character is there. -/
def skipString? (s : Source) (place : Nat) : Option Nat :=
  (Span.stringLength? (s.rest place)).map (place + ·)

/-- The line and the column of a place. -/
def position (s : Source) (place : Int) : Text.Position := s.text.position place

end Source

end ComponentTags
