/-
# Lines

Line ends and the layout of lines.  A carriage return, alone or in front of a line feed, ends a line
as a line feed does.
-/
import ComponentTags.Text.Basic

namespace ComponentTags.Text

/-- The text with a line feed for every line end. -/
def unified : Text → Text
  | [] => []
  | '\r' :: '\n' :: rest => '\n' :: unified rest
  | '\r' :: rest => '\n' :: unified rest
  | c :: rest => c :: unified rest

/-- The text with blanks in place of every tab, up to the next column that is a multiple of `width`. -/
def expandTabs (width : Nat) (text : Text) : Text :=
  go 0 text
where
  /-- Goes on at a column. -/
  go (column : Nat) : Text → Text
    | [] => []
    | '\t' :: rest =>
      let blanks := width - column % width
      List.replicate blanks ' ' ++ go (column + blanks) rest
    | '\n' :: rest => '\n' :: go 0 rest
    | c :: rest => c :: go (column + 1) rest

end ComponentTags.Text
