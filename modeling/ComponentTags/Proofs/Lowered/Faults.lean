/-
# Where compiling fails

A template that cannot be parsed is named by the error, which points into its text.  Lowering a parsed
template fails only where content is closed, at a raw node below a component which cuts a span; the error
then points into the text of that node and names no template (`compile_error_cases`).  Where no markup
tears a span, every error is therefore one of the template (`pointsInto_of_compile`).
-/
import ComponentTags.Compile
import ComponentTags.Proofs.Lowered.Succeeds
import ComponentTags.Proofs.Markup.Faults

namespace ComponentTags

open Delimiters (standard)
open Node (Everywhere)

variable {text : Text} {nodes : List Node} {e : ParseError} {f : Fault}

/-- An error points into a raw node that cuts a span, one of some nodes or below them. -/
def ParseError.PointsAtCut (e : ParseError) (nodes : List Node) : Prop :=
  ∃ content, .raw content ∈ Node.walk nodes ∧ ¬Unbroken content ∧ e.PointsInto content none

/-! ### Closing content -/

lemma offset_le_of_pieces {count : Nat} (h : pieces standard count text = .error f) :
    f.offset ≤ count + text.length := by
  fun_induction pieces standard count text with
  | case1 => cases h
  | case3 | case7 | case8 => cases h
  | case2 count c rest hkind f' hmore ih =>
    cases h
    exact le_of_le_drop (Nat.succ_pos _) (ih hmore)
  | case4 count c rest kind hkind f' hlength =>
    cases h
    exact Nat.add_le_add_left (Span.offset_le_of_length hlength) count
  | case5 =>
    cases h
    exact Nat.le_add_right _ _
  | case6 count c rest kind hkind n hlength f' hmore ih =>
    cases h
    exact le_of_le_drop (length_pos_of_kindAt? hkind hlength).2 (ih hmore)

lemma pointsInto_of_captureIn {s : Scope} (h : captureIn standard s text = .error e) :
    ¬Unbroken text ∧ e.PointsInto text none := by
  unfold captureIn at h
  split at h
  · rename_i f hpieces
    cases h
    refine ⟨?_, pointsInto_ofFault (by simpa using offset_le_of_pieces hpieces)⟩
    rintro ⟨ps, hps⟩
    rw [hpieces] at hps
    cases hps
  · cases h

/-- Closing nodes fails at a raw node. -/
lemma pointsAtCut_of_captureFrom {s : Scope} (hvalues : Everywhere Node.HasValues nodes)
    (h : captureFrom standard s nodes = .error e) : e.PointsAtCut nodes := by
  -- a raw node of some of the nodes or below them
  have among : ∀ {nodes nodes' : List Node}, e.PointsAtCut nodes → Node.walk nodes ⊆ Node.walk nodes' →
      e.PointsAtCut nodes' := by
    rintro nodes nodes' ⟨content, hmem, hcut⟩ hsubset
    exact ⟨content, hsubset hmem, hcut⟩
  induction nodes using Node.list_induction generalizing s with
  | nil =>
    rw [captureFrom] at h
    cases h
  | raw content rest ih =>
    rw [Node.everywhere_raw_iff] at hvalues
    rw [captureFrom] at h
    split at h
    · rename_i hcontent
      cases h
      exact ⟨content, by simp [Node.walk, Node.withDescendants], pointsInto_of_captureIn hcontent⟩
    · split at h
      · rename_i hrest
        cases h
        refine among (ih hvalues.2 hrest) ?_
        simp [Node.walk]
      · cases h
  | component tag attributes children selfClosing offset rest ihChildren ihRest =>
    rw [Node.everywhere_component_iff] at hvalues
    obtain ⟨hattributes, hchildren, hrest⟩ := hvalues
    obtain ⟨entries, inAttributes, hentries, -⟩ := exists_captureAttributes hattributes s.names
    rw [captureFrom] at h
    simp only [hentries] at h
    split at h
    · rename_i hinner
      cases h
      refine among (ihChildren hchildren hinner) ?_
      simp [Node.walk, Node.withDescendants]
    · split at h
      · rename_i hmore
        cases h
        refine among (ihRest hrest hmore) ?_
        simp [Node.walk]
      · cases h

lemma pointsAtCut_of_captureNodes (hvalues : Everywhere Node.HasValues nodes)
    (h : captureNodes nodes = .error e) : e.PointsAtCut nodes := by
  unfold captureNodes at h
  split at h
  · rename_i hclosed
    cases h
    exact pointsAtCut_of_captureFrom hvalues hclosed
  · cases h

/-! ### Lowering -/

/-- Content that was closed can be lowered. -/
lemma exists_lowerNodes_of_captureNodes {closed : List Node} {captured : List Text}
    (hvalues : Everywhere Node.HasValues nodes) (h : captureNodes nodes = .ok (closed, captured))
    (count : Nat) : ∃ l, lowerNodes standard true count closed = .ok l := by
  have hwhole := everywhere_isWhole_iff.mpr ⟨isUnbroken_of_captureNodes h, hvalues⟩
  obtain ⟨closed', captured', h', hwhole', -⟩ := exists_captureNodes hwhole
  rw [h] at h'
  cases h'
  obtain ⟨hunbroken, hvalues'⟩ := everywhere_isWhole_iff.mp hwhole'
  exact exists_lowerNodes hvalues' (unbrokenBelow_of_everywhere hunbroken) true count

/-- Lowering fails in the content of a component. -/
lemma pointsAtCut_of_lowerNodes {nested : Bool} {count : Nat} (hvalues : Everywhere Node.HasValues nodes)
    (h : lowerNodes standard nested count nodes = .error e) :
    ∃ node ∈ nodes, e.PointsAtCut node.children := by
  induction nodes generalizing count with
  | nil =>
    rw [lowerNodes] at h
    cases h
  | cons node rest ih =>
    have behind : ∀ {count : Nat}, Everywhere Node.HasValues rest →
        lowerNodes standard nested count rest = .error e →
        ∃ node' ∈ node :: rest, e.PointsAtCut node'.children := by
      intro count hrest h
      obtain ⟨node', hmem, hcut⟩ := ih hrest h
      exact ⟨node', .tail _ hmem, hcut⟩
    cases node with
    | raw content =>
      rw [lowerNodes] at h
      split at h
      · rename_i hmore
        cases h
        exact behind (Node.everywhere_raw_iff.mp hvalues).2 hmore
      · cases h
    | component tag attributes children selfClosing offset =>
      obtain ⟨hattributes, hchildren, hrest⟩ := Node.everywhere_component_iff.mp hvalues
      obtain ⟨values, hlowered⟩ := exists_lowerAttributes hattributes
      cases children with
      | nil =>
        rw [lowerNodes] at h
        simp only [hlowered] at h
        split at h
        · rename_i hmore
          cases h
          exact behind hrest hmore
        · cases h
      | cons child children =>
        rw [lowerNodes] at h
        simp only [hlowered] at h
        split at h
        · rename_i hcontent
          cases h
          exact ⟨_, .head _, pointsAtCut_of_captureNodes hchildren hcontent⟩
        · rename_i content captured hcontent
          -- content that was closed can be lowered
          obtain ⟨inner, hinner⟩ := exists_lowerNodes_of_captureNodes hchildren hcontent (count + 1)
          simp only [hinner] at h
          split at h
          · rename_i hmore
            cases h
            exact behind hrest hmore
          · cases h

/-! ### Templates -/

/-- A template that cannot be compiled either cannot be parsed, and the error names it and points into its
text, or it is parsed, and the error names no template and points into a raw node below a component which
cuts a span. -/
theorem compile_error_cases {levels : Nat} {components : List Text} {template : Option Text}
    (h : compile levels text components standard template = .error e) :
    (Markup.parseWithin levels text components standard template = .error e ∧ e.PointsInto text template) ∨
      ∃ parsed, Markup.parseWithin levels text components standard template = .ok parsed ∧
        ∃ node ∈ parsed.nodes, e.PointsAtCut node.children := by
  unfold compile at h
  split at h
  · rename_i hparse
    cases h
    exact .inl ⟨hparse, Markup.pointsInto_of_parseWithin hparse⟩
  · rename_i parsed hparse
    split at h
    · rename_i hlower
      cases h
      refine .inr ⟨parsed, hparse, ?_⟩
      unfold lower at hlower
      split at hlower
      · rename_i hnodes
        cases hlower
        exact pointsAtCut_of_lowerNodes (Markup.hasValues_of_parseWithin hparse) hnodes
      · cases hlower
    · cases h

/-- A template in which no markup tears a span is named by every error of compiling it. -/
theorem pointsInto_of_compile {levels : Nat} {components : List Text} {template : Option Text}
    (huntorn : Markup.Untorn (Markup.settingFor text components standard) text)
    (h : compile levels text components standard template = .error e) : e.PointsInto text template := by
  rcases compile_error_cases h with ⟨-, hpoints⟩ | ⟨parsed, hparse, node, hnode, content, hraw, hcut, -⟩
  · exact hpoints
  · -- no raw node cuts a span
    have hunbroken := Markup.isUnbroken_of_parseWithin huntorn hparse
    have hbelow := unbrokenBelow_of_everywhere hunbroken node hnode
    exact absurd (hbelow _ hraw) hcut

end ComponentTags
