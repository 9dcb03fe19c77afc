/-
# Places as lines and columns

In front of a place stand the lines above it, each with its line feed, and the beginning of its own line
(`InFront`).  One character further the place is in the next line behind a line feed and in the next column
behind any other character (`InFront.newline`, `InFront.other`), so this holds at every place of a text
(`exists_inFront`).  A line and a column therefore belong to one place only, and a later place has a later
position (`position_determines`).
-/
import ComponentTags.Text.Position
import Mathlib.Tactic.Common

namespace ComponentTags.Text

/-- The lines of a text, without their line feeds. -/
def lines (text : Text) : List Text := text.splitOn '\n'

/-- The number of characters of some lines, each with its line feed. -/
def linesLength (ls : List Text) : Nat := (ls.flatMap (· ++ ['\n'])).length

/-- A position comes before another one: in an earlier line, or in an earlier column of the same line. -/
def Position.IsBefore (p q : Position) : Prop :=
  p.line < q.line ∨ p.line = q.line ∧ p.column < q.column

lemma Position.IsBefore.trans {p q r : Position} (hpq : p.IsBefore q) (hqr : q.IsBefore r) :
    p.IsBefore r := by
  unfold Position.IsBefore at *
  omega

lemma Position.IsBefore.ne {p q : Position} (h : p.IsBefore q) : p ≠ q := by
  rintro rfl
  unfold Position.IsBefore at h
  omega

/-- What stands in front of a place: the lines `above` it, and the beginning of the line that goes on at the
place. -/
structure InFront (text : Text) (place : Nat) (above : List Text) (begun : Text) : Prop where
  lines_eq : ∃ next more, lines (text.drop place) = next :: more ∧
    lines text = above ++ (begun ++ next) :: more
  length_eq : linesLength above + begun.length = place
  position_eq : position text place = ⟨above.length + 1, begun.length + 1⟩

variable {text begun : Text} {above : List Text} {place : Nat} {c : Char}

/-! ### Lines -/

lemma exists_lines (text : Text) : ∃ line more, lines text = line :: more :=
  List.exists_cons_of_ne_nil (List.splitOn_ne_nil '\n' text)

lemma lines_newline (text : Text) : lines ('\n' :: text) = [] :: lines text :=
  List.splitOn_cons_eq_if_modifyHead '\n' text

lemma lines_other {line : Text} {more : List Text} (hc : c ≠ '\n') (h : lines text = line :: more) :
    lines (c :: text) = (c :: line) :: more := by
  have hlines : lines (c :: text) = (lines text).modifyHead (c :: ·) := by
    refine (List.splitOn_cons_eq_if_modifyHead c text).trans (if_neg ?_)
    simpa using hc
  rw [hlines, h, List.modifyHead_cons]

lemma linesLength_concat (ls : List Text) (line : Text) :
    linesLength (ls ++ [line]) = linesLength ls + (line.length + 1) := by
  simp [linesLength]

/-! ### One character further -/

lemma take_succ_eq (h : text[place]? = some c) : text.take (place + 1) = text.take place ++ [c] := by
  rw [List.take_add_one, h, Option.toList_some]

lemma drop_eq_cons (h : text[place]? = some c) : text.drop place = c :: text.drop (place + 1) := by
  obtain ⟨hplace, rfl⟩ := List.getElem?_eq_some_iff.mp h
  exact List.drop_eq_getElem_cons hplace

lemma position_newline (h : text[place]? = some '\n') :
    position text (place + 1 : Nat) = ⟨(position text place).line + 1, 1⟩ := by
  unfold position
  rw [Int.toNat_natCast, Int.toNat_natCast, take_succ_eq h, positionAfter_newline]

lemma position_other (h : text[place]? = some c) (hc : c ≠ '\n') :
    position text (place + 1 : Nat) =
      ⟨(position text place).line, (position text place).column + 1⟩ := by
  unfold position
  rw [Int.toNat_natCast, Int.toNat_natCast, take_succ_eq h, positionAfter_other hc]

/-- A line feed ends the line. -/
lemma InFront.newline (h : InFront text place above begun) (hc : text[place]? = some '\n') :
    InFront text (place + 1) (above ++ [begun]) [] := by
  obtain ⟨⟨next, more, hrest, hlines⟩, hlength, hposition⟩ := h
  rw [drop_eq_cons hc, lines_newline] at hrest
  obtain ⟨rfl, rfl⟩ := List.cons.inj hrest
  obtain ⟨line, more, hmore⟩ := exists_lines (text.drop (place + 1))
  refine ⟨⟨line, more, hmore, ?_⟩, ?_, ?_⟩
  · rw [hlines, hmore, List.append_nil, List.append_assoc]
    rfl
  · rw [linesLength_concat, List.length_nil]
    omega
  · rw [position_newline hc, hposition, List.length_append]
    rfl

/-- Any other character belongs to the line. -/
lemma InFront.other (h : InFront text place above begun) (hc : text[place]? = some c)
    (hne : c ≠ '\n') : InFront text (place + 1) above (begun ++ [c]) := by
  obtain ⟨⟨next, more, hrest, hlines⟩, hlength, hposition⟩ := h
  obtain ⟨line, others, hmore⟩ := exists_lines (text.drop (place + 1))
  rw [drop_eq_cons hc, lines_other hne hmore] at hrest
  obtain ⟨rfl, rfl⟩ := List.cons.inj hrest
  refine ⟨⟨line, others, hmore, ?_⟩, ?_, ?_⟩
  · rw [hlines, List.append_assoc]
    rfl
  · rw [List.length_append, List.length_singleton]
    omega
  · rw [position_other hc hne, hposition, List.length_append]
    rfl

/-- The next place has a later position. -/
lemma isBefore_succ (h : place < text.length) :
    (position text place).IsBefore (position text (place + 1 : Nat)) := by
  have hc : text[place]? = some text[place] := List.getElem?_eq_getElem h
  by_cases hfeed : text[place] = '\n'
  · rw [position_newline (hfeed ▸ hc)]
    exact .inl (Nat.lt_succ_self _)
  · rw [position_other hc hfeed]
    exact .inr ⟨rfl, Nat.lt_succ_self _⟩

/-! ### Every place -/

/-- In front of each place of a text stand some of its lines and the beginning of the next one. -/
lemma exists_inFront (h : place ≤ text.length) : ∃ above begun, InFront text place above begun := by
  induction place with
  | zero =>
    obtain ⟨line, more, hlines⟩ := exists_lines text
    exact ⟨[], [], ⟨line, more, hlines, hlines⟩, rfl, rfl⟩
  | succ place ih =>
    obtain ⟨above, begun, hfront⟩ := ih (by omega)
    have hc : text[place]? = some text[place] := List.getElem?_eq_getElem h
    by_cases hfeed : text[place] = '\n'
    · exact ⟨_, _, hfront.newline (hfeed ▸ hc)⟩
    · exact ⟨_, _, hfront.other hc hfeed⟩

/-- A later place has a later position. -/
lemma isBefore_of_lt {first second : Nat} (hlt : first < second) (h : second ≤ text.length) :
    (position text first).IsBefore (position text second) := by
  induction hlt with
  | refl => exact isBefore_succ h
  | step _ ih => exact (ih (by omega)).trans (isBefore_succ h)

/-- The line and the column of a place count from one and give the place back: it stands behind the lines
above, each with its line feed, and as many characters of its own line as there are columns in front.
A later place of the text has a later position, no two places share one, and an offset outside of the text
has the position of the nearer end. -/
theorem position_determines (text : Text) :
    (∀ place : Nat, place ≤ text.length →
      1 ≤ (position text place).line ∧ 1 ≤ (position text place).column ∧
        (∃ line, (lines text)[(position text place).line - 1]? = some line ∧
          (position text place).column - 1 ≤ line.length) ∧
        linesLength ((lines text).take ((position text place).line - 1)) +
          ((position text place).column - 1) = place) ∧
      (∀ first second : Nat, first < second → second ≤ text.length →
        (position text first).IsBefore (position text second)) ∧
      (∀ first second : Nat, first ≤ text.length → second ≤ text.length → first ≠ second →
        position text first ≠ position text second) ∧
      (∀ offset : Int, offset < 0 → position text offset = position text 0) ∧
      ∀ offset : Int, text.length < offset → position text offset = position text text.length := by
  refine ⟨?_, ?_, ?_, ?_, ?_⟩
  · intro place hplace
    obtain ⟨above, begun, ⟨next, more, -, hlines⟩, hlength, hposition⟩ := exists_inFront hplace
    rw [hposition, hlines]
    simp only [Nat.add_sub_cancel]
    refine ⟨Nat.le_add_left _ _, Nat.le_add_left _ _, ⟨begun ++ next, ?_, ?_⟩, ?_⟩
    · rw [List.getElem?_append_right (Nat.le_refl _), Nat.sub_self, List.getElem?_cons_zero]
    · rw [List.length_append]
      exact Nat.le_add_right _ _
    · rw [List.take_left, hlength]
  · intro first second hlt hsecond
    exact isBefore_of_lt hlt hsecond
  · intro first second hfirst hsecond hne
    rcases Nat.lt_or_gt_of_ne hne with hlt | hlt
    · exact (isBefore_of_lt hlt hsecond).ne
    · exact (isBefore_of_lt hlt hfirst).ne.symm
  · intro offset hoffset
    exact position_of_neg hoffset
  · intro offset hoffset
    exact position_of_length_le (by omega)

/-- The place behind a line feed, the line feed itself, and offsets on both sides of the text. -/
theorem position_determines_feed :
    (position "ab\nc" (3 : Nat) = ⟨2, 1⟩ ∧ linesLength ((lines "ab\nc").take (2 - 1)) + (1 - 1) = 3) ∧
      (position "ab\nc" (2 : Nat)).IsBefore (position "ab\nc" (3 : Nat)) ∧
      position "ab\nc" (2 : Nat) ≠ position "ab\nc" (3 : Nat) ∧
      position "ab\nc" (-5) = position "ab\nc" 0 ∧
      position "ab\nc" 9 = position "ab\nc" (4 : Nat) := by
  obtain ⟨hplace, hbefore, hne, hneg, hbeyond⟩ := position_determines "ab\nc"
  have hposition : position "ab\nc" (3 : Nat) = ⟨2, 1⟩ := by decide
  obtain ⟨-, -, -, hlength⟩ := hplace 3 (by decide)
  rw [hposition] at hlength
  exact ⟨⟨hposition, hlength⟩, hbefore 2 3 (by decide) (by decide),
    hne 2 3 (by decide) (by decide) (by decide), hneg (-5) (by decide), hbeyond 9 (by decide)⟩

end ComponentTags.Text
