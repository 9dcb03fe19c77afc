/-
# Quoted text

The written form of a text inside quotes, as it appears in messages and listings.  Single quotes are
used unless the text has a single quote and no double quote.  The quote in use and the backslash are
escaped by a backslash, line feed, carriage return and tabulator have escapes of their own, and a
character that is not printable is written by its code in two, four or eight hexadecimal digits.
-/
import ComponentTags.Text.Classes

namespace ComponentTags.Text

/-- A number in at least `width` hexadecimal digits. -/
def hex (width n : Nat) : Text :=
  let digits := Nat.toDigits 16 n
  List.replicate (width - digits.length) '0' ++ digits

/-- The code of a character as an escape of two, four or eight hexadecimal digits. -/
def codeEscape (c : Char) : Text :=
  let n := c.toNat
  if n ≤ 0xff then '\\' :: 'x' :: hex 2 n
  else if n ≤ 0xffff then '\\' :: 'u' :: hex 4 n
  else '\\' :: 'U' :: hex 8 n

/-- How a character is written between quotes of the kind `quote`. -/
def quotedChar (quote c : Char) : Text :=
  if c == quote || c == '\\' then ['\\', c]
  else if c == '\t' then ['\\', 't']
  else if c == '\n' then ['\\', 'n']
  else if c == '\r' then ['\\', 'r']
  else if isPrintable c then [c]
  else codeEscape c

/-- The quote that a text is written with. -/
def quoteFor (text : Text) : Char :=
  if text.contains '\'' && !text.contains '"' then '"' else '\''

/-- A text in quotes. -/
def quoted (text : Text) : Text :=
  let quote := quoteFor text
  quote :: text.flatMap (quotedChar quote) ++ [quote]

end ComponentTags.Text
