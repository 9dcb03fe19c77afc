/-
# Lowering node by node

How nodes are lowered one after the other, and an induction that follows it: over the nodes in front and,
for a component, over its children.  Blocks with different numbers have different names
(`number_eq_of_blockName_eq`).
-/
import ComponentTags.Lowered.Lower
import ComponentTags.Proofs.Span.Local

namespace ComponentTags

/-! ### Values -/

/-- The parts of a value that begins with an expression. -/
lemma partsFrom_whole_eq_ok_iff {span rest held : Text} {count : Nat} {parts : List ValuePart}
    (hwhole : Span.Whole .expression span) :
    partsFrom .standard count held (span ++ rest) = .ok parts ↔
      ∃ more, partsFrom .standard (count + span.length) [] rest = .ok more ∧ parts = heldPart held ++
        .expression (Text.trim (Span.split .standard .expression span).body) :: more := by
  have hkind := hwhole.kindAt?_eq rest
  have hlength := hwhole.length_eq rest
  cases span with
  | nil =>
    -- a span begins with its opening delimiter
    have hbegins := Span.kindAt?_eq_some_iff.mp (hwhole.kindAt?_eq [])
    exact absurd (List.prefix_nil.mp hbegins) (by decide)
  | cons c span =>
    rw [List.cons_append] at hkind hlength ⊢
    rw [partsFrom, if_pos hkind]
    simp only [hlength, List.length_cons, List.drop_left, List.take_left]
    cases partsFrom .standard (count + (span.length + 1)) [] rest <;> simp [eq_comm]

/-- The expression that begins a value with parts. -/
lemma exists_enclosed_of_partsFrom {text held : Text} {count : Nat} {parts : List ValuePart}
    (hkind : Span.kindAt? .standard text = some .expression)
    (h : partsFrom .standard count held text = .ok parts) :
    ∃ inside behind more, text = Span.enclosed .expression inside ++ behind ∧
      Span.Inside (Delimiters.standard.stop .expression) 0 inside ∧
      partsFrom .standard (count + (Span.enclosed .expression inside).length) [] behind = .ok more ∧
      parts = heldPart held ++
        .expression (Text.trim (Span.split .standard .expression (Span.enclosed .expression inside)).body) :: more := by
  obtain ⟨n, hlength⟩ : ∃ n, Span.length .standard false text = .ok n := by
    cases text with
    | nil => exact absurd hkind (by decide)
    | cons c rest =>
      rw [partsFrom, if_pos hkind] at h
      split at h
      · cases h
      all_goals exact ⟨_, ‹_›⟩
  obtain ⟨inside, behind, rfl, -, hwhole, hskip | hinside⟩ := Span.enclosed_of_length hkind hlength
  · obtain hcomment | ⟨hstatement, -⟩ := hskip
    · cases hcomment
    · cases hstatement
  obtain ⟨more, hmore, rfl⟩ := (partsFrom_whole_eq_ok_iff hwhole).mp h
  exact ⟨inside, behind, more, rfl, hinside, hmore, rfl⟩

/-! ### Nodes -/

variable {d : Delimiters} {nested : Bool} {count : Nat} {nodes rest closed : List Node} {l : Lowering}

/-- Nodes are made of nodes that stand in front and, for a component, of its children. -/
theorem Node.list_induction {P : List Node → Prop} (nil : P [])
    (raw : ∀ content rest, P rest → P (.raw content :: rest))
    (component : ∀ tag attributes children selfClosing offset rest, P children → P rest →
      P (.component tag attributes children selfClosing offset :: rest)) (nodes : List Node) :
    P nodes := by
  induction hlength : (Node.walk nodes).length using Nat.strongRecOn generalizing nodes with
  | ind length ih =>
    subst hlength
    match nodes with
    | [] => exact nil
    | .raw content :: rest =>
      exact raw content rest (ih _ (by simp [Node.walk, Node.withDescendants]) _ rfl)
    | .component tag attributes children selfClosing offset :: rest =>
      refine component _ _ _ _ _ _ (ih _ ?_ _ rfl) (ih _ ?_ _ rfl)
      · simp only [Node.walk, Node.withDescendants, List.length_append, List.length_cons]
        omega
      · simp only [Node.walk, Node.withDescendants, List.length_append, List.length_cons]
        omega

lemma captureFrom_raw_eq_ok_iff {s : Scope} {content : Text} {captured : List Text} :
    captureFrom d s (.raw content :: rest) = .ok (closed, captured) ↔
      ∃ r closedRest inRest, captureIn d s content = .ok r ∧
        captureFrom d r.scope rest = .ok (closedRest, inRest) ∧
        closed = .raw r.text :: closedRest ∧ captured = r.captured ++ inRest := by
  rw [captureFrom]
  constructor
  · intro h
    split at h
    · cases h
    rename_i r hr
    split at h
    · cases h
    rename_i closedRest inRest hrest
    cases h
    exact ⟨r, closedRest, inRest, hr, hrest, rfl, rfl⟩
  · rintro ⟨r, closedRest, inRest, hr, hrest, rfl, rfl⟩
    simp only [hr, hrest]

lemma captureFrom_component_eq_ok_iff {s : Scope} {tag : Text} {attributes : Table Text Text}
    {children : List Node} {selfClosing : Bool} {offset : Int} {captured : List Text} :
    captureFrom d s (.component tag attributes children selfClosing offset :: rest) =
        .ok (closed, captured) ↔
      ∃ entries inner closedRest inAttributes inChildren inRest,
        captureAttributes d s.names attributes = .ok (entries, inAttributes) ∧
        captureFrom d ⟨s.names, []⟩ children = .ok (inner, inChildren) ∧
        captureFrom d s rest = .ok (closedRest, inRest) ∧
        closed = .component tag entries inner selfClosing offset :: closedRest ∧
        captured = inAttributes ++ inChildren ++ inRest := by
  rw [captureFrom]
  constructor
  · intro h
    split at h
    · cases h
    rename_i entries inAttributes hentries
    split at h
    · cases h
    rename_i inner inChildren hinner
    split at h
    · cases h
    rename_i closedRest inRest hrest
    cases h
    exact ⟨entries, inner, closedRest, inAttributes, inChildren, inRest, hentries, hinner, hrest, rfl,
      rfl⟩
  · rintro ⟨entries, inner, closedRest, inAttributes, inChildren, inRest, hentries, hinner, hrest, rfl,
      rfl⟩
    simp only [hentries, hinner, hrest]

lemma exists_captureFrom_of_captureNodes {bound captured : List Text}
    (h : captureNodes nodes bound d = .ok (closed, captured)) :
    ∃ all, captureFrom d ⟨bound, []⟩ nodes = .ok (closed, all) ∧ captured = all.eraseDups := by
  unfold captureNodes at h
  split at h
  · cases h
  rename_i closed' all hall
  cases h
  exact ⟨all, hall, rfl⟩

lemma eq_nil_of_captureFrom {s : Scope} {captured : List Text}
    (h : captureFrom d s nodes = .ok (closed, captured)) (hnil : closed = []) : nodes = [] := by
  have hlength := length_walk_captureFrom h
  rw [hnil] at hlength
  cases nodes with
  | nil => rfl
  | cons node rest => cases node <;> simp [Node.walk, Node.withDescendants] at hlength

lemma exists_of_lowerNodes_raw {content : Text}
    (h : lowerNodes d nested count (.raw content :: rest) = .ok l) :
    ∃ more, lowerNodes d nested count rest = .ok more ∧
      l = { more with items := .text content :: more.items } := by
  rw [lowerNodes] at h
  split at h
  · cases h
  rename_i more hmore
  cases h
  exact ⟨more, hmore, rfl⟩

lemma exists_of_lowerNodes_empty {tag : Text} {attributes : Table Text Text} {selfClosing : Bool}
    {offset : Int}
    (h : lowerNodes d nested count (.component tag attributes [] selfClosing offset :: rest) =
      .ok l) :
    ∃ values more, lowerAttributes d attributes = .ok values ∧
      lowerNodes d nested count rest = .ok more ∧
      l = { more with items := .call ⟨tag, [], values, .absent⟩ :: more.items } := by
  rw [lowerNodes] at h
  split at h
  · cases h
  rename_i values hvalues
  split at h
  · cases h
  rename_i more hmore
  cases h
  exact ⟨values, more, hvalues, hmore, rfl⟩

lemma lowerNodes_component_eq_ok_iff {tag : Text} {attributes : Table Text Text}
    {children : List Node} {selfClosing : Bool} {offset : Int} (hne : children ≠ []) :
    lowerNodes d nested count
        (.component tag attributes children selfClosing offset :: rest) = .ok l ↔
      ∃ content captured values inner more, captureNodes children [] d = .ok (content, captured) ∧
        lowerAttributes d attributes = .ok values ∧
        lowerNodes d true (count + 1) content = .ok inner ∧
        lowerNodes d nested inner.count rest = .ok more ∧
        l = ⟨.call ⟨tag, blockName tag (count + 1), values,
            if nested then .extended captured else .fresh captured⟩ :: more.items,
          inner.blocks ++ ⟨blockName tag (count + 1), inner.items⟩ :: more.blocks, more.count⟩ := by
  obtain ⟨child, children, rfl⟩ := List.exists_cons_of_ne_nil hne
  rw [lowerNodes]
  constructor
  · intro h
    split at h
    · cases h
    rename_i content captured hcontent
    split at h
    · cases h
    rename_i values hvalues
    split at h
    · cases h
    rename_i inner hinner
    split at h
    · cases h
    rename_i more hmore
    cases h
    exact ⟨content, captured, values, inner, more, hcontent, hvalues, hinner, hmore, rfl⟩
  · rintro ⟨content, captured, values, inner, more, hcontent, hvalues, hinner, hmore, rfl⟩
    split
    · rename_i hcontent'
      rw [hcontent] at hcontent'
      cases hcontent'
    · rename_i hcontent'
      rw [hcontent] at hcontent'
      cases hcontent'
      simp only [hvalues, hinner, hmore]

/-! ### Numbers of blocks -/

/-- The names of blocks with different numbers are different. -/
lemma number_eq_of_blockName_eq {tag tag' : Text} {number number' : Nat}
    (h : blockName tag number = blockName tag' number') : number = number' := by
  -- the digits stand behind the last underscore
  have hlast : ∀ (tag : Text) (number : Nat),
      ((blockName tag number).reverse.takeWhile (· ≠ '_')).reverse = Text.ofNat number := by
    intro tag number
    have hname : blockName tag number = (reservedStart ++ tag ++ ['_']) ++ '_' :: Text.ofNat number := by
      simp [blockName]
    have hdigits : ∀ c ∈ (Text.ofNat number).reverse, decide (c ≠ '_') = true := by
      intro c hc
      rw [List.mem_reverse] at hc
      simp only [decide_eq_true_eq]
      rintro rfl
      exact Nat.underscore_not_in_toDigits hc
    rw [hname, List.reverse_append, List.reverse_cons, List.append_assoc,
      List.takeWhile_append_of_pos hdigits]
    simp
  have hdigits := hlast tag number
  rw [h, hlast] at hdigits
  have hnumber := congrArg (Nat.ofDigitChars 10 · 0) hdigits
  simpa only [Text.ofNat, Nat.ofDigitChars_ten_toDigits] using hnumber.symm

end ComponentTags
