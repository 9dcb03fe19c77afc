/-
# Character classes

The classes of characters that markup and template expressions are made of.  An ASCII character is
classified by a plain comparison and any other character by a table, so statements about ASCII text
never look into the tables.
-/
import ComponentTags.Text.Basic
import ComponentTags.Text.Ranges

namespace ComponentTags.Text

/-- The blank characters: the ASCII blanks, the four information separators, and the separators of
Unicode. -/
def isBlank (c : Char) : Bool :=
  let n := c.toNat
  (9 ≤ n && n ≤ 13) || (28 ≤ n && n ≤ 32) || n == 0x85 || n == 0xa0 || n == 0x1680 ||
    (0x2000 ≤ n && n ≤ 0x200a) || n == 0x2028 || n == 0x2029 || n == 0x202f || n == 0x205f ||
    n == 0x3000

/-- The letters of every script. -/
def isLetter (c : Char) : Bool :=
  if c.toNat < 0x80 then c.isAlpha else inRanges c.toNat letterRanges

/-- The characters that stand for a digit, superscripts and digits of other scripts included. -/
def isDigit (c : Char) : Bool :=
  if c.toNat < 0x80 then c.isDigit else inRanges c.toNat digitRanges

/-- The letters, the digits and all other characters that have a numeric value. -/
def isAlphanumeric (c : Char) : Bool :=
  if c.toNat < 0x80 then c.isAlphanum
  else inRanges c.toNat letterRanges || inRanges c.toNat numeralRanges

/-- The characters of a word: alphanumeric ones and the underscore. -/
def isWordChar (c : Char) : Bool := isAlphanumeric c || c == '_'

/-- The upper-case characters. -/
def isUpper (c : Char) : Bool :=
  if c.toNat < 0x80 then c.isUpper else upperRuns.any (·.contains c.toNat)

/-- The characters that are written as they are in a quoted text. -/
def isPrintable (c : Char) : Bool :=
  if c.toNat < 0x80 then 32 ≤ c.toNat && c.toNat < 0x7f else !inRanges c.toNat unprintableRanges

/-- The characters that may occur in an identifier. -/
def isIdentifierChar (c : Char) : Bool :=
  if c.toNat < 0x80 then c.isAlphanum || c == '_'
  else (isAlphanumeric c && !inRanges c.toNat strayRanges) || inRanges c.toNat markRanges

/-- The characters that an identifier may begin with. -/
def isIdentifierStart (c : Char) : Bool :=
  if c.toNat < 0x80 then c.isAlpha || c == '_'
  else (isLetter c && !inRanges c.toNat notFirstRanges) || inRanges c.toNat firstRanges

/-- Whether a text is an identifier. -/
def isIdentifier : Text → Bool
  | [] => false
  | c :: rest => isIdentifierStart c && rest.all isIdentifierChar

/-- The text without the blank characters at its front. -/
def trimStart (text : Text) : Text := text.dropWhile isBlank

/-- The text without the blank characters at its end. -/
def trimEnd (text : Text) : Text := (text.reverse.dropWhile isBlank).reverse

/-- The text without the blank characters at both ends. -/
def trim (text : Text) : Text := trimEnd (trimStart text)

end ComponentTags.Text
