/-
# When lowering succeeds

Lowering takes the values of attributes and the texts of the nodes below a component apart into spans,
each of them alone, and fails where a span does not end.  The values of the attributes of a parsed
template have only whole spans.  So lowering such a template succeeds if and only if no raw node below a
component cuts a span, and none does if no markup of the template tears one
(`exists_lower_iff_of_parseWithin`).

Content is closed once for every component around it.  Closing replaces names inside of spans and leaves
the spans whole (`splits_closedPieces`), so the condition holds for the closed content as well, and
content that can be closed once can be closed again.
-/
import ComponentTags.Proofs.Lowered.Carriers
import ComponentTags.Proofs.Markup.Crossing

namespace ComponentTags

open Delimiters (standard)
open ComponentTags.Span (Whole IsSkipped enclosed)
open Node (Everywhere)

variable {value : Text} {ps : List Piece} {nodes : List Node}

/-! ### Values of attributes -/

lemma exists_partsFrom (h : Splits value ps) (hparts : ∀ piece ∈ ps, piece.IsPart) (count : Nat)
    (held : Text) : ∃ parts, partsFrom standard count held value = .ok parts := by
  induction h generalizing count held with
  | nil =>
    rw [partsFrom]
    exact ⟨_, rfl⟩
  | @character c rest ps hkind _ ih =>
    rw [List.forall_mem_cons] at hparts
    have hno : Span.kindAt? standard (c :: rest) ≠ some .expression := by simp [hkind]
    rw [partsFrom, if_neg hno]
    exact ih hparts.2 _ _
  | @skipped kind span rest ps hwhole _ _ ih =>
    -- a comment or a raw block is longer than a character
    rw [List.forall_mem_cons] at hparts
    have hlength : span.length = 1 := hparts.1
    have hle := (Span.kindAt?_eq_some_iff.mp (hwhole.kindAt?_eq [])).length_le
    rw [Span.length_start, List.append_nil] at hle
    omega
  | @span kind inside rest ps hinside hnot _ ih =>
    rw [List.forall_mem_cons] at hparts
    obtain rfl : kind = .expression := hparts.1
    obtain ⟨more, hmore⟩ := ih hparts.2 (count + (enclosed .expression inside).length) []
    exact ⟨_, (partsFrom_whole_eq_ok_iff (Span.whole_enclosed hinside hnot)).mpr ⟨more, hmore, rfl⟩⟩

lemma exists_valueParts (h : IsValue value) : ∃ parts, valueParts standard value = .ok parts := by
  obtain ⟨ps, hsplits, hparts⟩ := h
  obtain ⟨parts, h⟩ := exists_partsFrom hsplits hparts 0 []
  rw [valueParts, h]
  cases parts with
  | nil => exact ⟨_, rfl⟩
  | cons part parts => exact ⟨_, rfl⟩

lemma exists_lowerAttributes {attributes : Table Text Text}
    (h : ∀ entry ∈ attributes, IsValue entry.2) :
    ∃ values, lowerAttributes standard attributes = .ok values := by
  induction attributes with
  | nil =>
    rw [lowerAttributes]
    exact ⟨_, rfl⟩
  | cons entry rest ih =>
    obtain ⟨key, value⟩ := entry
    rw [List.forall_mem_cons] at h
    obtain ⟨parts, hparts⟩ := exists_valueParts h.1
    obtain ⟨more, hmore⟩ := ih h.2
    rw [lowerAttributes, hparts, hmore]
    exact ⟨_, rfl⟩

/-! ### Closing content -/

/-- Closing keeps the kinds of the pieces. -/
lemma isPart_closedPieces (h : ∀ piece ∈ ps, piece.IsPart) (s : Scope) :
    ∀ piece ∈ closedPieces s ps, piece.IsPart := by
  induction ps generalizing s with
  | nil => exact h
  | cons piece rest ih =>
    rw [List.forall_mem_cons] at h
    cases piece with
    | verbatim text => exact List.forall_mem_cons.mpr ⟨h.1, ih h.2 s⟩
    | span kind text => exact List.forall_mem_cons.mpr ⟨h.1, ih h.2 _⟩

lemma exists_captureIn {text : Text} (h : Splits text ps) (s : Scope) :
    ∃ r, captureIn standard s text = .ok r ∧ Splits r.text (closedPieces s ps) := by
  rw [captureIn, pieces_eq_ok_iff.mpr h]
  exact ⟨_, rfl, splits_closedPieces h s⟩

lemma exists_captureAttributes {attributes : Table Text Text}
    (h : ∀ entry ∈ attributes, IsValue entry.2) (bound : List Text) :
    ∃ closed captured, captureAttributes standard bound attributes = .ok (closed, captured) ∧
      ∀ entry ∈ closed, IsValue entry.2 := by
  induction attributes with
  | nil =>
    rw [captureAttributes]
    exact ⟨_, _, rfl, h⟩
  | cons entry rest ih =>
    obtain ⟨key, value⟩ := entry
    rw [List.forall_mem_cons] at h
    obtain ⟨⟨ps, hsplits, hparts⟩, hrest⟩ := h
    obtain ⟨r, hr, hclosed⟩ := exists_captureIn hsplits ⟨bound, []⟩
    obtain ⟨more, captured, hmore, hvalues⟩ := ih hrest
    rw [captureAttributes, hr, hmore]
    refine ⟨_, _, rfl, List.forall_mem_cons.mpr ⟨?_, hvalues⟩⟩
    exact ⟨_, hclosed, isPart_closedPieces hparts _⟩

/-- A node whose spans are whole. -/
def Node.IsWhole (node : Node) : Prop := node.IsUnbroken ∧ node.HasValues

lemma everywhere_isWhole_iff :
    Everywhere Node.IsWhole nodes ↔
      Everywhere Node.IsUnbroken nodes ∧ Everywhere Node.HasValues nodes := by
  simp only [Everywhere, Node.IsWhole, imp_and, forall_and]

/-- Nodes with whole spans are closed to such nodes. -/
lemma exists_captureFrom (h : Everywhere Node.IsWhole nodes) (s : Scope) :
    ∃ closed captured, captureFrom standard s nodes = .ok (closed, captured) ∧
      Everywhere Node.IsWhole closed := by
  induction nodes using Node.list_induction generalizing s with
  | nil =>
    rw [captureFrom]
    exact ⟨_, _, rfl, h⟩
  | raw content rest ih =>
    rw [Node.everywhere_raw_iff] at h
    obtain ⟨ps, hsplits⟩ := unbroken_iff.mp h.1.1
    obtain ⟨r, hr, hclosed⟩ := exists_captureIn hsplits s
    obtain ⟨nodes, captured, hnodes, hwhole⟩ := ih h.2 r.scope
    rw [captureFrom, hr]
    simp only [hnodes]
    refine ⟨_, _, rfl, Node.everywhere_raw_iff.mpr ⟨⟨?_, trivial⟩, hwhole⟩⟩
    exact unbroken_iff.mpr ⟨_, hclosed⟩
  | component tag attributes children selfClosing offset rest ihChildren ihRest =>
    rw [Node.everywhere_component_iff] at h
    obtain ⟨⟨-, hattributes⟩, hchildren, hrest⟩ := h
    obtain ⟨entries, inAttributes, hentries, hvalues⟩ := exists_captureAttributes hattributes s.names
    obtain ⟨inner, inChildren, hinner, hwhole⟩ := ihChildren hchildren ⟨s.names, []⟩
    obtain ⟨nodes, captured, hnodes, hwhole'⟩ := ihRest hrest s
    rw [captureFrom]
    simp only [hentries, hinner, hnodes]
    exact ⟨_, _, rfl, Node.everywhere_component_iff.mpr ⟨⟨trivial, hvalues⟩, hwhole, hwhole'⟩⟩

/-- Content with whole spans can be closed, and its closed content has as many nodes. -/
lemma exists_captureNodes (h : Everywhere Node.IsWhole nodes) :
    ∃ closed captured, captureNodes nodes = .ok (closed, captured) ∧ Everywhere Node.IsWhole closed ∧
      (Node.walk closed).length = (Node.walk nodes).length := by
  obtain ⟨closed, captured, hclosed, hwhole⟩ := exists_captureFrom h ⟨[], []⟩
  refine ⟨closed, captured.eraseDups, ?_, hwhole, length_walk_captureFrom hclosed⟩
  rw [captureNodes, hclosed]

/-- Nodes that are closed do not cut spans. -/
lemma isUnbroken_of_captureFrom {s : Scope} {closed : List Node} {captured : List Text}
    (h : captureFrom standard s nodes = .ok (closed, captured)) :
    Everywhere Node.IsUnbroken nodes := by
  fun_induction captureFrom standard s nodes generalizing closed captured with
  | case1 => exact Node.everywhere_nil
  | case2 | case3 | case5 | case6 | case7 => cases h
  | case4 s content rest r hr nodes inRest hrest ih =>
    refine Node.everywhere_raw_iff.mpr ⟨?_, ih hrest⟩
    unfold captureIn at hr
    split at hr
    · cases hr
    · rename_i ps hps
      exact ⟨ps, hps⟩
  | case8 s tag attributes children selfClosing offset rest entries inAttributes hattributes inner
      inChildren hchildren nodes inRest hrest ihChildren ihRest =>
    exact Node.everywhere_component_iff.mpr ⟨trivial, ihChildren hchildren, ihRest hrest⟩

lemma isUnbroken_of_captureNodes {closed : List Node} {captured : List Text}
    (h : captureNodes nodes = .ok (closed, captured)) : Everywhere Node.IsUnbroken nodes := by
  unfold captureNodes at h
  split at h
  · cases h
  · rename_i hclosed
    exact isUnbroken_of_captureFrom hclosed

/-! ### Lowering -/

/-- The nodes right below a node. -/
def Node.children : Node → List Node
  | .raw _ => []
  | .component _ _ children _ _ => children

/-- No raw node below a component cuts a span. -/
def UnbrokenBelow (nodes : List Node) : Prop :=
  ∀ node ∈ nodes, Everywhere Node.IsUnbroken node.children

lemma unbrokenBelow_cons_iff {node : Node} {rest : List Node} :
    UnbrokenBelow (node :: rest) ↔ Everywhere Node.IsUnbroken node.children ∧ UnbrokenBelow rest :=
  List.forall_mem_cons

lemma unbrokenBelow_of_everywhere (h : Everywhere Node.IsUnbroken nodes) : UnbrokenBelow nodes := by
  induction nodes with
  | nil => simp [UnbrokenBelow]
  | cons node rest ih =>
    cases node with
    | raw content =>
      rw [Node.everywhere_raw_iff] at h
      exact unbrokenBelow_cons_iff.mpr ⟨Node.everywhere_nil, ih h.2⟩
    | component =>
      rw [Node.everywhere_component_iff] at h
      exact unbrokenBelow_cons_iff.mpr ⟨h.2.1, ih h.2.2⟩

lemma length_walk_component (tag : Text) (attributes : Table Text Text) (children rest : List Node)
    (selfClosing : Bool) (offset : Int) :
    (Node.walk (.component tag attributes children selfClosing offset :: rest)).length =
      (Node.walk children).length + (Node.walk rest).length + 1 := by
  simp only [Node.walk, Node.withDescendants, List.length_append, List.length_cons]
  omega

lemma exists_lowerNodes (hvalues : Everywhere Node.HasValues nodes) (hbelow : UnbrokenBelow nodes)
    (nested : Bool) (count : Nat) : ∃ l, lowerNodes standard nested count nodes = .ok l := by
  -- the content of a component has fewer nodes, also when it is closed
  induction hlength : (Node.walk nodes).length using Nat.strongRecOn generalizing nodes nested count with
  | ind length ih =>
  subst hlength
  match nodes with
  | [] =>
    rw [lowerNodes]
    exact ⟨_, rfl⟩
  | .raw content :: rest =>
    rw [Node.everywhere_raw_iff] at hvalues
    rw [unbrokenBelow_cons_iff] at hbelow
    obtain ⟨more, hmore⟩ := ih _ (by simp [Node.walk, Node.withDescendants]) hvalues.2 hbelow.2 nested
      count rfl
    rw [lowerNodes, hmore]
    exact ⟨_, rfl⟩
  | .component tag attributes children selfClosing offset :: rest =>
    obtain ⟨hattributes, hchildren, hrest⟩ := Node.everywhere_component_iff.mp hvalues
    obtain ⟨hcontent, hbelowRest⟩ : Everywhere Node.IsUnbroken children ∧ UnbrokenBelow rest :=
      unbrokenBelow_cons_iff.mp hbelow
    obtain ⟨values, hlowered⟩ := exists_lowerAttributes hattributes
    rw [length_walk_component] at ih
    by_cases hne : children = []
    · subst hne
      obtain ⟨more, hmore⟩ := ih _ (by omega) hrest hbelowRest nested count rfl
      rw [lowerNodes, hlowered, hmore]
      exact ⟨_, rfl⟩
    · obtain ⟨closed, captured, hclosed, hwhole, hlength⟩ :=
        exists_captureNodes (everywhere_isWhole_iff.mpr ⟨hcontent, hchildren⟩)
      obtain ⟨hunbroken, hclosedValues⟩ := everywhere_isWhole_iff.mp hwhole
      obtain ⟨inner, hinner⟩ := ih _ (by omega) hclosedValues (unbrokenBelow_of_everywhere hunbroken)
        true (count + 1) rfl
      obtain ⟨more, hmore⟩ := ih _ (by omega) hrest hbelowRest nested inner.count rfl
      exact ⟨_, (lowerNodes_component_eq_ok_iff hne).mpr
        ⟨_, _, _, _, _, hclosed, hlowered, hinner, hmore, rfl⟩⟩

lemma unbrokenBelow_of_lowerNodes {nested : Bool} {count : Nat} {l : Lowering}
    (h : lowerNodes standard nested count nodes = .ok l) : UnbrokenBelow nodes := by
  induction nodes generalizing count l with
  | nil => simp [UnbrokenBelow]
  | cons node rest ih =>
    cases node with
    | raw content =>
      obtain ⟨more, hmore, -⟩ := exists_of_lowerNodes_raw h
      exact unbrokenBelow_cons_iff.mpr ⟨Node.everywhere_nil, ih hmore⟩
    | component tag attributes children selfClosing offset =>
      by_cases hne : children = []
      · subst hne
        obtain ⟨values, more, -, hmore, -⟩ := exists_of_lowerNodes_empty h
        exact unbrokenBelow_cons_iff.mpr ⟨Node.everywhere_nil, ih hmore⟩
      · obtain ⟨content, captured, values, inner, more, hcontent, -, -, hmore, -⟩ :=
          (lowerNodes_component_eq_ok_iff hne).mp h
        exact unbrokenBelow_cons_iff.mpr ⟨isUnbroken_of_captureNodes hcontent, ih hmore⟩

/-- Where the values of attributes have whole spans, lowering succeeds if and only if no raw node below a
component cuts one. -/
lemma exists_lower_iff (hvalues : Everywhere Node.HasValues nodes) :
    (∃ l, lower nodes = .ok l) ↔ UnbrokenBelow nodes := by
  constructor
  · rintro ⟨l, h⟩
    unfold lower at h
    split at h
    · cases h
    · rename_i hl
      exact unbrokenBelow_of_lowerNodes hl
  · intro hbelow
    obtain ⟨l, hl⟩ := exists_lowerNodes hvalues hbelow false 0
    exact ⟨_, by rw [lower, hl]⟩

/-! ### Parsed templates -/

/-- Lowering a parsed template succeeds if and only if no raw node below a component cuts a span.  If no
markup of the template tears a span, no raw node cuts one at all. -/
theorem exists_lower_iff_of_parseWithin {levels : Nat} {text : Text} {components : List Text}
    {name : Option Text} {parsed : Markup.Parsed}
    (h : Markup.parseWithin levels text components standard name = .ok parsed) :
    ((∃ l, lower parsed.nodes = .ok l) ↔ UnbrokenBelow parsed.nodes) ∧
      (Markup.Untorn (Markup.settingFor text components standard) text →
        (∃ l, lower parsed.nodes = .ok l) ∧ Everywhere Node.IsUnbroken parsed.nodes) := by
  have hiff := exists_lower_iff (Markup.hasValues_of_parseWithin h)
  refine ⟨hiff, fun hs => ?_⟩
  have hunbroken := Markup.isUnbroken_of_parseWithin hs h
  exact ⟨hiff.mpr (unbrokenBelow_of_everywhere hunbroken), hunbroken⟩

theorem exists_lower_iff_of_parseWithin_span :
    Markup.parseWithin 1 "<A>\x7b\x7b x \x7d\x7d</A>" ["A"] =
        .ok ⟨[.component "A" [] [.raw "\x7b\x7b x \x7d\x7d"] false 0], []⟩ ∧
      Markup.Untorn (Markup.settingFor "<A>\x7b\x7b x \x7d\x7d</A>" ["A"] standard)
        "<A>\x7b\x7b x \x7d\x7d</A>" ∧
      (∃ l, lower [.component "A" [] [.raw "\x7b\x7b x \x7d\x7d"] false 0] = .ok l) ∧
      Everywhere Node.IsUnbroken [.component "A" [] [.raw "\x7b\x7b x \x7d\x7d"] false 0] := by
  have hparse : Markup.parseWithin 1 "<A>\x7b\x7b x \x7d\x7d</A>" ["A"] =
      .ok ⟨[.component "A" [] [.raw "\x7b\x7b x \x7d\x7d"] false 0], []⟩ := by
    with_unfolding_all rfl
  have hplaces : ∀ place rest, ("<A>\x7b\x7b x \x7d\x7d</A>" : Text).drop place = '<' :: rest →
      place = 0 ∧ rest = "A>\x7b\x7b x \x7d\x7d</A>" ∨ place = 10 ∧ rest = "/A>" := by
    intro place rest hrest
    have hall : ∀ place < 14, (("<A>\x7b\x7b x \x7d\x7d</A>" : Text).drop place).head? = some '<' →
        place = 0 ∨ place = 10 := by decide
    have hlt : place < 14 := by
      by_contra hle
      rw [List.drop_eq_nil_of_le (Nat.le_of_not_lt hle)] at hrest
      cases hrest
    rcases hall place hlt (by rw [hrest]; rfl) with rfl | rfl
    · exact .inl ⟨rfl, (List.cons.inj hrest).2.symm⟩
    · exact .inr ⟨rfl, (List.cons.inj hrest).2.symm⟩
  have huntorn : Markup.Untorn (Markup.settingFor "<A>\x7b\x7b x \x7d\x7d</A>" ["A"] standard)
      "<A>\x7b\x7b x \x7d\x7d</A>" := by
    have hend : Crosses false "<A>\x7b\x7b x \x7d\x7d</A>" 14 :=
      Crosses.length_iff.mpr ⟨_, by with_unfolding_all rfl⟩
    refine ⟨fun _ hrest h => ?_, fun _ hrest hslash hletter _ => ?_, fun _ hrest h => ?_,
      fun _ hrest h hname _ _ => ?_⟩
    · rcases hplaces _ _ hrest with ⟨rfl, heq⟩ | ⟨rfl, heq⟩
      · cases heq
      · cases heq
        cases h
        exact hend
    · rcases hplaces _ _ hrest with ⟨rfl, rfl⟩ | ⟨rfl, rfl⟩
      · cases hletter
      · exact absurd rfl hslash
    · rcases hplaces _ _ hrest with ⟨rfl, rfl⟩ | ⟨rfl, rfl⟩
      · obtain rfl := h.name_eq
        exact .inl (.character rfl (.character rfl .zero))
      · cases h.letter
    · rcases hplaces _ _ hrest with ⟨rfl, rfl⟩ | ⟨rfl, rfl⟩
      · obtain rfl := h.name_eq
        cases hname
      · cases h.letter
  exact ⟨hparse, huntorn, (exists_lower_iff_of_parseWithin hparse).2 huntorn⟩

/-- A template whose spans all end is parsed, but the node of a `script` cuts a span with the end tag of
the `script` in it. -/
theorem lower_torn_script :
    (∃ ps, pieces standard 0 "<Card><script>\x7b\x7b \"</script>\" \x7d\x7d</script></Card>" = .ok ps) ∧
      Markup.parseWithin 1 "<Card><script>\x7b\x7b \"</script>\" \x7d\x7d</script></Card>" ["Card"] =
        .ok ⟨[.component "Card" [] [.raw "<script>\x7b\x7b \"", .raw "</script>\" \x7d\x7d</script>"]
          false 0], []⟩ ∧
      lower [.component "Card" [] [.raw "<script>\x7b\x7b \"", .raw "</script>\" \x7d\x7d</script>"]
          false 0] =
        .error (.ofFault "<script>\x7b\x7b \"" none ⟨8, .unterminatedSpan .expression⟩) := by
  refine ⟨⟨_, by with_unfolding_all rfl⟩, by with_unfolding_all rfl, ?_⟩
  have hcontent : captureIn standard ⟨[], []⟩ "<script>\x7b\x7b \"" =
      .error (.ofFault "<script>\x7b\x7b \"" none ⟨8, .unterminatedSpan .expression⟩) := by
    with_unfolding_all rfl
  have hnodes : captureNodes [.raw "<script>\x7b\x7b \"", .raw "</script>\" \x7d\x7d</script>"] =
      .error (.ofFault "<script>\x7b\x7b \"" none ⟨8, .unterminatedSpan .expression⟩) := by
    simp only [captureNodes, captureFrom, hcontent]
  have hlower : lowerNodes standard false 0 [.component "Card" []
      [.raw "<script>\x7b\x7b \"", .raw "</script>\" \x7d\x7d</script>"] false 0] =
        .error (.ofFault "<script>\x7b\x7b \"" none ⟨8, .unterminatedSpan .expression⟩) := by
    rw [lowerNodes]
    split
    · rename_i hcaptured
      rw [hnodes] at hcaptured
      cases hcaptured
      rfl
    · rename_i hcaptured
      rw [hnodes] at hcaptured
      cases hcaptured
  rw [lower, hlower]

end ComponentTags
