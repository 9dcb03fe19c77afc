/-
# Case

Lower-case and upper-case forms of texts.  A form may have more characters than what it comes from:
the capital letter I with a dot above becomes two characters in lower case, and the sharp s becomes
two in upper case.  A capital sigma always becomes the medial small sigma, which is enough for a
comparison with ASCII text.
-/
import ComponentTags.Text.Classes

namespace ComponentTags.Text

/-- The shift of the first run that contains a code point, applied to it. -/
def shiftBy (runs : List CaseRun) (c : Char) : Char :=
  match runs.find? (·.contains c.toNat) with
  | some r => Char.ofNat (c.toNat + r.up - r.down)
  | none => c

/-- The lower-case form of a character. -/
def lowerChar (c : Char) : Text :=
  if c.toNat < 0x80 then [c.toLower]
  else if c.toNat == 0x130 then ['i', Char.ofNat 0x307]
  else [shiftBy lowerRuns c]

/-- The upper-case form of a character. -/
def upperChar (c : Char) : Text :=
  if c.toNat < 0x80 then [c.toUpper]
  else match longUpperForms.lookup c.toNat with
    | some form => form.map Char.ofNat
    | none => [shiftBy upperFormRuns c]

/-- The lower-case form of a text. -/
def lower (text : Text) : Text := text.flatMap lowerChar

/-- The upper-case form of a text. -/
def upper (text : Text) : Text := text.flatMap upperChar

theorem lower_append (a b : Text) : lower (a ++ b) = lower a ++ lower b := by
  simp [lower]

end ComponentTags.Text
