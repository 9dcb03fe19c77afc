/-
# Text

Templates, names and output are texts: lists of code points.  A scanner reads a text from the front,
so the part that is still unread is again a text, and a place in a template is the number of
characters in front of it.  This file has the few operations on texts that the library needs beyond
those of lists: searching, slicing with bounds that may count from the end, joining and sorting.
-/

namespace ComponentTags

/-- A text is the list of its code points. -/
abbrev Text := List Char

/-- A string literal may stand wherever a text is expected. -/
instance : Coe String Text := ⟨String.toList⟩

namespace Text

/-! ## Searching -/

/-- The number of characters in front of the first occurrence of `needle`, counted from `skipped`. -/
def indexFrom (needle : Text) (skipped : Nat) : Text → Option Nat
  | [] => if needle.isEmpty then some skipped else none
  | c :: rest =>
    if needle.isPrefixOf (c :: rest) then some skipped else indexFrom needle (skipped + 1) rest

/-- The number of characters in front of the first occurrence of `needle`. -/
def index? (needle text : Text) : Option Nat := indexFrom needle 0 text

/-- The number of characters in front of the first occurrence of `needle` that begins behind the
first `skipped` characters.  Behind the end of the text there is none, not even of the empty text. -/
def indexAfter? (needle : Text) (skipped : Nat) (text : Text) : Option Nat :=
  if text.length < skipped then none else indexFrom needle skipped (text.drop skipped)

/-- Every occurrence of `old` replaced by `new`, from left to right and without overlap. -/
def replaceAll (old new : Text) (text : Text) : Text :=
  go text.length text
where
  /-- At most `fuel` further steps; a step passes one character or one occurrence. -/
  go : Nat → Text → Text
    | 0, rest => rest
    | _, [] => []
    | fuel + 1, c :: rest =>
      if old.isPrefixOf (c :: rest) && !old.isEmpty then
        new ++ go fuel ((c :: rest).drop old.length)
      else c :: go fuel rest

/-! ## Slicing -/

/-- The place that a bound of a slice means in a text of `length` characters: a negative bound counts
from the end, and the result is clamped to the text. -/
def clampBound (length : Nat) (bound : Int) : Nat :=
  if bound < 0 then (bound + length).toNat else min bound.toNat length

/-- The characters from `start` up to `stop`, both bounds read by `clampBound`. -/
def slice (text : Text) (start stop : Int) : Text :=
  let first := clampBound text.length start
  (text.take (clampBound text.length stop)).drop first

/-- The characters from `start` to the end of the text. -/
def sliceFrom (text : Text) (start : Int) : Text := text.drop (clampBound text.length start)

/-! ## Joining, counting and sorting -/

/-- The parts one after the other, with `separator` between neighbours. -/
def join (separator : Text) : List Text → Text
  | [] => []
  | [part] => part
  | part :: rest => part ++ separator ++ join separator rest

/-- `count` copies of a text. -/
def replicate (count : Nat) (text : Text) : Text := (List.replicate count text).flatten

/-- A natural number in decimal digits. -/
def ofNat (n : Nat) : Text := Nat.toDigits 10 n

/-- An integer in decimal digits, a negative one behind a minus sign. -/
def ofInt : Int → Text
  | .ofNat n => ofNat n
  | .negSucc n => '-' :: ofNat (n + 1)

/-- Whether a text comes before another one, or is the same, in the order of code points. -/
def isBefore : Text → Text → Bool
  | [], _ => true
  | _ :: _, [] => false
  | a :: as, b :: bs => if a = b then isBefore as bs else Nat.blt a.toNat b.toNat

/-- Texts in increasing order of their code points. -/
def sort (texts : List Text) : List Text := texts.mergeSort isBefore

end Text

end ComponentTags
