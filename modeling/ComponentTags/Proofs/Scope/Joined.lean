/-
# Texts closed one behind the other

A text may reach a component in several parts, since every tag that is no component's begins a new raw
node.  Where the parts are cut does not matter as long as no span is cut: the pieces of the whole are
those of the parts (`pieces_append`), and what the first part binds is handed on to the second
(`captureIn_append`).  So closing the parts as nodes closes the whole text
(`captureNodes_parts`).  A first part that ends with a brace is left out, since the brace may open a span
together with what follows.
-/
import ComponentTags.Proofs.Scope.Crossed

namespace ComponentTags

open Delimiters (standard)
open ComponentTags.Span (Inside Whole IsSkipped enclosed)

/-! ### Pieces -/

variable {text behind : Text} {ps : List Piece}

/-- The end of a text that does not end with a brace does not end with one either. -/
lemma getLast?_ne_of_append {front : Text} {c : Char} (h : (front ++ text).getLast? ≠ some c) :
    text.getLast? ≠ some c := by
  intro hlast
  rw [List.getLast?_append, hlast, Option.some_or] at h
  exact h rfl

/-- The pieces of a text are found in front of those of what follows it. -/
lemma pieces_append (h : Splits text ps) (hlast : text.getLast? ≠ some '\x7b') (count : Nat)
    (behind : Text) :
    pieces standard count (text ++ behind) =
      match pieces standard (count + text.length) behind with
      | .error f => .error f
      | .ok more => .ok (ps ++ more) := by
  induction h generalizing count with
  | nil =>
    rw [List.nil_append, List.length_nil, Nat.add_zero]
    cases pieces standard count behind <;> rfl
  | @character c rest ps hkind _ ih =>
    have hrest : rest.getLast? ≠ some '\x7b' := @getLast?_ne_of_append rest [c] _ hlast
    -- a second character that would make a span begin is one of the same text
    have hkind' : Span.kindAt? standard (c :: (rest ++ behind)) = none := by
      cases rest with
      | nil =>
        refine kindAt?_eq_none_of_ne ?_
        rintro rfl
        exact hlast rfl
      | cons x rest => exact Span.kindAt?_eq_none_of_head hkind rfl
    rw [List.cons_append, pieces]
    simp only [hkind', ih hrest, List.length_cons]
    rw [Nat.add_assoc, Nat.add_comm 1]
    cases pieces standard (count + (rest.length + 1)) behind <;> rfl
  | @skipped kind span rest ps hwhole hskip _ ih =>
    rw [List.append_assoc, pieces_whole hwhole, ih (getLast?_ne_of_append hlast), if_pos hskip,
      List.length_append, Nat.add_assoc]
    cases pieces standard (count + (span.length + rest.length)) behind <;> rfl
  | @span kind inside rest ps hinside hnot _ ih =>
    rw [List.append_assoc, pieces_whole (Span.whole_enclosed hinside hnot),
      ih (getLast?_ne_of_append hlast), if_neg hnot, List.length_append, Nat.add_assoc]
    cases pieces standard (count + ((enclosed kind inside).length + rest.length)) behind <;> rfl

/-- The pieces of a text with another one behind it. -/
lemma splits_append_iff (h : Splits text ps) (hlast : text.getLast? ≠ some '\x7b') {qs : List Piece} :
    Splits (text ++ behind) qs ↔ ∃ more, Splits behind more ∧ qs = ps ++ more := by
  rw [← @pieces_eq_ok_iff 0, pieces_append h hlast]
  simp only [← @pieces_eq_ok_iff (0 + text.length)]
  cases pieces standard (0 + text.length) behind with
  | error f => simp
  | ok more => simp [eq_comm]

/-! ### Closed texts -/

/-- A closed text with another one behind it. -/
def Captured.append (first more : Captured) : Captured where
  text := first.text ++ more.text
  captured := first.captured ++ more.captured
  scope := more.scope

/-- Pieces are closed in the scope that those in front of them leave. -/
lemma capturePieces_append (d : Delimiters) (scope : Scope) (ps qs : List Piece) :
    capturePieces d scope (ps ++ qs) =
      (capturePieces d scope ps).append (capturePieces d (capturePieces d scope ps).scope qs) := by
  induction ps generalizing scope with
  | nil => rfl
  | cons piece ps ih =>
    simp only [List.cons_append, capturePieces, ih, Captured.append, List.append_assoc]

/-- A text is closed if it has pieces. -/
lemma captureIn_eq_ok_iff {scope : Scope} {r : Captured} :
    captureIn standard scope text = .ok r ↔
      ∃ ps, Splits text ps ∧ r = capturePieces standard scope ps := by
  simp only [← @pieces_eq_ok_iff 0]
  unfold captureIn
  cases pieces standard 0 text with
  | error f => simp
  | ok ps => simp [eq_comm]

/-- A text is closed behind another one in the scope that the other one leaves. -/
theorem captureIn_append {scope : Scope} {r whole : Captured}
    (h : captureIn standard scope text = .ok r) (hlast : text.getLast? ≠ some '\x7b') :
    captureIn standard scope (text ++ behind) = .ok whole ↔
      ∃ more, captureIn standard r.scope behind = .ok more ∧ whole = r.append more := by
  obtain ⟨ps, hsplits, rfl⟩ := captureIn_eq_ok_iff.mp h
  simp only [captureIn_eq_ok_iff, splits_append_iff hsplits hlast]
  constructor
  · rintro ⟨_, ⟨more, hmore, rfl⟩, rfl⟩
    exact ⟨_, ⟨more, hmore, rfl⟩, capturePieces_append _ _ _ _⟩
  · rintro ⟨_, ⟨more, hmore, rfl⟩, rfl⟩
    exact ⟨_, ⟨more, hmore, rfl⟩, (capturePieces_append _ _ _ _).symm⟩

lemma captureText_eq_ok_iff {bound captured : List Text} {closed : Text} :
    captureText text bound = .ok (closed, captured) ↔
      ∃ r, captureIn standard ⟨bound, []⟩ text = .ok r ∧ closed = r.text ∧
        captured = r.captured.eraseDups := by
  unfold captureText
  cases captureIn standard ⟨bound, []⟩ text with
  | error e => simp
  | ok r => simp [eq_comm]

/-! ### Parts of a text -/

/-- What two raw nodes are closed to. -/
lemma captureNodes_raw_raw_eq_ok_iff {first second : Text} {bound captured : List Text}
    {closed : List Node} {r : Captured} (h : captureIn standard ⟨bound, []⟩ first = .ok r) :
    captureNodes [.raw first, .raw second] bound = .ok (closed, captured) ↔
      ∃ more, captureIn standard r.scope second = .ok more ∧
        closed = [.raw r.text, .raw more.text] ∧
        captured = (r.captured ++ more.captured).eraseDups := by
  simp only [captureNodes, captureFrom, h]
  cases captureIn standard r.scope second with
  | error e => simp
  | ok more => simp [eq_comm]

/-- Closing content does not depend on where it is cut into raw nodes.  Behind a part that can be closed
and does not end with a brace, two nodes are closed if and only if the whole text is; then the closed
parts joined are the closed text, and the captured names are the same. -/
theorem captureNodes_parts {first second closed : Text} {bound captured : List Text}
    (hfirst : captureText first bound = .ok (closed, captured)) (hlast : first.getLast? ≠ some '\x7b') :
    ((∃ r, captureNodes [.raw first, .raw second] bound = .ok r) ↔
      ∃ r, captureText (first ++ second) bound = .ok r) ∧
    ∀ nodes names, captureNodes [.raw first, .raw second] bound = .ok (nodes, names) →
      ∃ a b, nodes = [.raw a, .raw b] ∧ captureText (first ++ second) bound = .ok (a ++ b, names) := by
  obtain ⟨r, hr, -, -⟩ := captureText_eq_ok_iff.mp hfirst
  have hwhole : ∀ text names, captureText (first ++ second) bound = .ok (text, names) ↔
      ∃ more, captureIn standard r.scope second = .ok more ∧ text = r.text ++ more.text ∧
        names = (r.captured ++ more.captured).eraseDups := by
    intro text names
    rw [captureText_eq_ok_iff]
    constructor
    · rintro ⟨whole, hwhole, rfl, rfl⟩
      obtain ⟨more, hmore, rfl⟩ := (captureIn_append hr hlast).mp hwhole
      exact ⟨more, hmore, rfl, rfl⟩
    · rintro ⟨more, hmore, rfl, rfl⟩
      exact ⟨_, (captureIn_append hr hlast).mpr ⟨more, hmore, rfl⟩, rfl, rfl⟩
  refine ⟨⟨?_, ?_⟩, ?_⟩
  · rintro ⟨⟨nodes, names⟩, hnodes⟩
    obtain ⟨more, hmore, -, -⟩ := (captureNodes_raw_raw_eq_ok_iff hr).mp hnodes
    exact ⟨_, (hwhole _ _).mpr ⟨more, hmore, rfl, rfl⟩⟩
  · rintro ⟨⟨text, names⟩, htext⟩
    obtain ⟨more, hmore, -, -⟩ := (hwhole _ _).mp htext
    exact ⟨_, (captureNodes_raw_raw_eq_ok_iff hr).mpr ⟨more, hmore, rfl, rfl⟩⟩
  · intro nodes names hnodes
    obtain ⟨more, hmore, rfl, rfl⟩ := (captureNodes_raw_raw_eq_ok_iff hr).mp hnodes
    exact ⟨r.text, more.text, rfl, (hwhole _ _).mpr ⟨more, hmore, rfl, rfl⟩⟩

/-- The beginning of a loop. -/
def loopStart : Text := "\x7b% for x in x %\x7d\x7b\x7b x ~ y \x7d\x7d"

/-- The end of a loop, and a variable behind it. -/
def loopStop : Text := "\x7b% endfor %\x7d\x7b\x7b x \x7d\x7d"

/-- A loop that is opened in one node and closed in the next. -/
theorem captureNodes_parts_loop :
    captureText loopStart [] =
        .ok ("\x7b% for x in glam__ctx.locals[\"x\"] %\x7d\x7b\x7b x ~ glam__ctx.locals[\"y\"] \x7d\x7d",
          ["x", "y"]) ∧
      loopStart.getLast? ≠ some '\x7b' ∧
      (∃ r, captureText (loopStart ++ loopStop) [] = .ok r) ∧
      ∃ a b, captureNodes [.raw loopStart, .raw loopStop] [] = .ok ([.raw a, .raw b], ["x", "y"]) ∧
        captureText (loopStart ++ loopStop) [] = .ok (a ++ b, ["x", "y"]) := by
  have hfirst : captureText loopStart [] =
      .ok ("\x7b% for x in glam__ctx.locals[\"x\"] %\x7d\x7b\x7b x ~ glam__ctx.locals[\"y\"] \x7d\x7d",
        ["x", "y"]) := by
    with_unfolding_all rfl
  have hlast : loopStart.getLast? ≠ some '\x7b' := by decide
  have hnodes : captureNodes [.raw loopStart, .raw loopStop] [] =
      .ok ([.raw "\x7b% for x in glam__ctx.locals[\"x\"] %\x7d\x7b\x7b x ~ glam__ctx.locals[\"y\"] \x7d\x7d",
        .raw "\x7b% endfor %\x7d\x7b\x7b glam__ctx.locals[\"x\"] \x7d\x7d"], ["x", "y"]) := by
    with_unfolding_all rfl
  obtain ⟨hsucceeds, hjoined⟩ := @captureNodes_parts loopStart loopStop _ _ _ hfirst hlast
  obtain ⟨a, b, hab, htext⟩ := hjoined _ _ hnodes
  exact ⟨hfirst, hlast, hsucceeds.mp ⟨_, hnodes⟩, a, b, hab ▸ hnodes, htext⟩

end ComponentTags
