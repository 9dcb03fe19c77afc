/-
# Lines and columns

A place in a template is shown to its author as a line and a column, both counted from one.  Lines
end at line feeds only.  An offset outside the text means its nearer end.
-/
import ComponentTags.Text.Basic

namespace ComponentTags.Text

/-- A line and a column of a text, both counted from one. -/
structure Position where
  /-- The line, counted from one. -/
  line : Nat
  /-- The column, counted from one. -/
  column : Nat
deriving DecidableEq, Repr

/-- The line and the column behind the text `before`. -/
def positionAfter (before : Text) : Position where
  line := before.count '\n' + 1
  column := (before.reverse.takeWhile (· != '\n')).length + 1

/-- The line and the column of a place in a text. -/
def position (text : Text) (offset : Int) : Position :=
  positionAfter (text.take offset.toNat)

/-- Behind a line feed a new line begins. -/
theorem positionAfter_newline (before : Text) :
    positionAfter (before ++ ['\n']) = ⟨(positionAfter before).line + 1, 1⟩ := by
  simp [positionAfter]

/-- Behind any other character the line goes on. -/
theorem positionAfter_other {c : Char} (h : c ≠ '\n') (before : Text) :
    positionAfter (before ++ [c]) =
      ⟨(positionAfter before).line, (positionAfter before).column + 1⟩ := by
  simp [positionAfter, h]

/-- An offset beyond the end of a text has the position of its end. -/
theorem position_of_length_le {text : Text} {offset : Int} (h : text.length ≤ offset) :
    position text offset = position text text.length := by
  have h₁ : text.length ≤ offset.toNat := by omega
  simp [position, List.take_of_length_le h₁]

/-- An offset in front of a text has the position of its front. -/
theorem position_of_neg {text : Text} {offset : Int} (h : offset < 0) :
    position text offset = position text 0 := by
  have h₁ : offset.toNat = 0 := by omega
  simp [position, h₁]

end ComponentTags.Text
