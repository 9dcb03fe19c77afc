/-
# Numbers of blocks

Every component with content has a block of its own, which is defined once and used by one call, the call
that stands for the component (`Numbered`).  The blocks have the numbers of their components in document
order, so no two of them have the same name, whatever the components are called.  A block is defined behind
the blocks that are used in it.

A number is given to a block before its content is lowered, and the block is put down behind the blocks
of its content.  So everything is said of the nodes with the numbers behind `count`, and of the blocks
that they come to.  The numbers begin anew with every template.
-/
import ComponentTags.Proofs.Lowered.Steps

namespace ComponentTags

variable {d : Delimiters} {nested : Bool} {count last : Nat} {nodes rest closed : List Node}
  {tag : Text} {attributes : Table Text Text} {children : List Node} {selfClosing : Bool} {offset : Int}
  {items : List Item} {blocks : List Block}

/-! ### Names in document order -/

/-- The tag of a component with content. -/
def Node.contentTag? : Node → Option Text
  | .component tag _ (_ :: _) _ _ => some tag
  | _ => none

/-- The tags of the components with content at any depth, in document order. -/
def contentTags (nodes : List Node) : List Text := (Node.walk nodes).filterMap Node.contentTag?

/-- The names of their blocks, with the numbers behind `count`. -/
def blockNames (count : Nat) (nodes : List Node) : List Text :=
  ((contentTags nodes).zipIdx (count + 1)).map fun (tag, number) => blockName tag number

lemma contentTags_raw {content : Text} : contentTags (.raw content :: rest) = contentTags rest := by
  rw [contentTags, Node.walk, Node.withDescendants]
  rfl

lemma contentTags_empty :
    contentTags (.component tag attributes [] selfClosing offset :: rest) = contentTags rest := by
  rw [contentTags, Node.walk, Node.withDescendants]
  rfl

lemma contentTags_component (h : children ≠ []) :
    contentTags (.component tag attributes children selfClosing offset :: rest) =
      tag :: (contentTags children ++ contentTags rest) := by
  obtain ⟨child, children, rfl⟩ := List.exists_cons_of_ne_nil h
  simp [contentTags, Node.walk, Node.withDescendants, Node.contentTag?]

lemma blockNames_component (h : children ≠ []) :
    blockNames count (.component tag attributes children selfClosing offset :: rest) =
      blockName tag (count + 1) :: (blockNames (count + 1) children ++
        blockNames (count + 1 + (contentTags children).length) rest) := by
  simp only [blockNames, contentTags_component h, List.zipIdx_cons, List.zipIdx_append, List.map_cons,
    List.map_append]
  congr 4
  omega

/-- Blocks with different numbers have different names, so no name occurs twice. -/
lemma nodup_blockNames : (blockNames count nodes).Nodup := by
  have hnumbers : ((contentTags nodes).zipIdx (count + 1)).Pairwise fun a b => a.2 ≠ b.2 := by
    rw [← List.pairwise_map, List.zipIdx_map_snd]
    exact List.nodup_range'
  exact List.Pairwise.map _ (fun a b hne heq => hne (number_eq_of_blockName_eq heq)) hnumbers

/-! ### The call of a component -/

/-- The block that an item uses, if it uses one. -/
def Item.uses : Item → List Text
  | .text _ => []
  | .call c => if c.block = [] then [] else [c.block]

/-- The blocks that the body of a block uses. -/
def Block.uses (b : Block) : List Text := b.body.flatMap Item.uses

/-- Items that stand for nodes, one for each.  Text stands for text.  A component without content is a
call of its tag without a block.  A component with content is a call of its tag with the block of its own
number; what is in the block stands for its children, and they have the numbers behind it.  The numbers up
to `count` are used in front of the nodes, those up to `last` behind them. -/
inductive Numbered (blocks : List Block) : Nat → List Node → List Item → Nat → Prop where
  /-- There is no node. -/
  | nil {count : Nat} : Numbered blocks count [] [] count
  /-- Raw text. -/
  | raw {count last : Nat} {content text : Text} {rest : List Node} {items : List Item}
    (hrest : Numbered blocks count rest items last) :
    Numbered blocks count (.raw content :: rest) (.text text :: items) last
  /-- A component without content. -/
  | empty {count last : Nat} {tag : Text} {attributes : Table Text Text} {selfClosing : Bool}
    {offset : Int} {rest : List Node} {c : Call} {items : List Item} (htag : c.tag = tag)
    (hblock : c.block = []) (hrest : Numbered blocks count rest items last) :
    Numbered blocks count (.component tag attributes [] selfClosing offset :: rest)
      (.call c :: items) last
  /-- A component with content. -/
  | content {count inside last : Nat} {tag : Text} {attributes : Table Text Text}
    {children : List Node} {selfClosing : Bool} {offset : Int} {rest : List Node} {c : Call}
    {body items : List Item} (hne : children ≠ []) (htag : c.tag = tag)
    (hblock : c.block = blockName tag (count + 1)) (hmem : ⟨c.block, body⟩ ∈ blocks)
    (hbody : Numbered blocks (count + 1) children body inside)
    (hrest : Numbered blocks inside rest items last) :
    Numbered blocks count (.component tag attributes children selfClosing offset :: rest)
      (.call c :: items) last

/-- What stands for closed content stands for the content. -/
lemma Numbered.of_captureFrom {s : Scope} {captured : List Text}
    (hclosed : captureFrom d s nodes = .ok (closed, captured))
    (h : Numbered blocks count closed items last) : Numbered blocks count nodes items last := by
  induction nodes using Node.list_induction generalizing s closed captured count last items with
  | nil =>
    rw [captureFrom] at hclosed
    cases hclosed
    exact h
  | raw content rest ih =>
    obtain ⟨r, closedRest, inRest, -, hrest, rfl, -⟩ := captureFrom_raw_eq_ok_iff.mp hclosed
    cases h with
    | raw h => exact .raw (ih hrest h)
  | component tag attributes children selfClosing offset rest ihChildren ihRest =>
    obtain ⟨entries, inner, closedRest, inAttributes, inChildren, inRest, -, hinner, hrest, rfl, -⟩ :=
      captureFrom_component_eq_ok_iff.mp hclosed
    cases h with
    | empty htag hblock h =>
      obtain rfl := eq_nil_of_captureFrom hinner rfl
      exact .empty htag hblock (ihRest hrest h)
    | content hne htag hblock hmem hbody h =>
      refine .content ?_ htag hblock hmem (ihChildren hinner hbody) (ihRest hrest h)
      rintro rfl
      rw [captureFrom] at hinner
      cases hinner
      exact hne rfl

/-- Closing content keeps its components. -/
lemma contentTags_captureFrom {s : Scope} {captured : List Text}
    (hclosed : captureFrom d s nodes = .ok (closed, captured)) :
    contentTags closed = contentTags nodes := by
  induction nodes using Node.list_induction generalizing s closed captured with
  | nil =>
    rw [captureFrom] at hclosed
    cases hclosed
    rfl
  | raw content rest ih =>
    obtain ⟨r, closedRest, inRest, -, hrest, rfl, -⟩ := captureFrom_raw_eq_ok_iff.mp hclosed
    rw [contentTags_raw, contentTags_raw, ih hrest]
  | component tag attributes children selfClosing offset rest ihChildren ihRest =>
    obtain ⟨entries, inner, closedRest, inAttributes, inChildren, inRest, -, hinner, hrest, rfl, -⟩ :=
      captureFrom_component_eq_ok_iff.mp hclosed
    by_cases hempty : inner = []
    · obtain rfl := eq_nil_of_captureFrom hinner hempty
      rw [hempty, contentTags_empty, contentTags_empty, ihRest hrest]
    · have hne : children ≠ [] := by
        rintro rfl
        rw [captureFrom] at hinner
        cases hinner
        exact hempty rfl
      rw [contentTags_component hempty, contentTags_component hne, ihChildren hinner, ihRest hrest]

/-! ### Lowering -/

/-- Lowered nodes whose blocks have the numbers behind `count`. -/
structure Lowering.Orderly (count : Nat) (nodes : List Node) (l : Lowering) : Prop where
  count_eq : l.count = count + (contentTags nodes).length
  defined : (l.blocks.map Block.name).Perm (blockNames count nodes)
  used : (l.items.flatMap Item.uses ++ l.blocks.flatMap Block.uses).Perm (blockNames count nodes)
  ordered : ∀ front b back, l.blocks = front ++ b :: back → ∀ name ∈ b.uses, name ∈ front.map Block.name
  numbered : ∀ blocks, l.blocks ⊆ blocks → Numbered blocks count nodes l.items l.count

namespace Lowering.Orderly

variable {l inner more : Lowering}

lemma nil : Lowering.Orderly count [] ⟨[], [], count⟩ where
  count_eq := rfl
  defined := .nil
  used := .nil
  ordered front b back h := by simp at h
  numbered _ _ := .nil

lemma raw (h : more.Orderly count rest) (content text : Text) :
    Lowering.Orderly count (.raw content :: rest) { more with items := .text text :: more.items } where
  count_eq := by rw [contentTags_raw]; exact h.count_eq
  defined := by rw [blockNames, contentTags_raw]; exact h.defined
  used := by rw [blockNames, contentTags_raw]; exact h.used
  ordered := h.ordered
  numbered blocks hblocks := .raw (h.numbered blocks hblocks)

lemma empty (h : more.Orderly count rest) {c : Call} (htag : c.tag = tag) (hblock : c.block = []) :
    Lowering.Orderly count (.component tag attributes [] selfClosing offset :: rest)
      { more with items := .call c :: more.items } where
  count_eq := by rw [contentTags_empty]; exact h.count_eq
  defined := by rw [blockNames, contentTags_empty]; exact h.defined
  used := by
    rw [blockNames, contentTags_empty, List.flatMap_cons, Item.uses, if_pos hblock]
    exact h.used
  ordered := h.ordered
  numbered blocks hblocks := .empty htag hblock (h.numbered blocks hblocks)

/-- What the items use is defined with them. -/
lemma mem_names (h : l.Orderly count nodes) {name : Text} (hname : name ∈ l.items.flatMap Item.uses) :
    name ∈ l.blocks.map Block.name :=
  h.defined.symm.subset (h.used.subset (List.mem_append_left _ hname))

lemma component (hinner : inner.Orderly (count + 1) children) (hmore : more.Orderly inner.count rest)
    (hne : children ≠ []) {c : Call} (htag : c.tag = tag) (hblock : c.block = blockName tag (count + 1)) :
    Lowering.Orderly count (.component tag attributes children selfClosing offset :: rest)
      ⟨.call c :: more.items, inner.blocks ++ ⟨c.block, inner.items⟩ :: more.blocks, more.count⟩ := by
  have hnames : blockNames count (.component tag attributes children selfClosing offset :: rest) =
      c.block :: (blockNames (count + 1) children ++ blockNames inner.count rest) := by
    rw [blockNames_component hne, hblock, hinner.count_eq]
  have huses : c.block ≠ [] := by
    rw [hblock]
    exact List.cons_ne_nil _ _
  refine ⟨?_, ?_, ?_, ?_, fun blocks hblocks => ?_⟩
  · rw [contentTags_component hne, List.length_cons, List.length_append]
    have := hinner.count_eq
    have := hmore.count_eq
    simp only
    omega
  · rw [hnames, List.map_append, List.map_cons]
    exact List.perm_middle.trans ((hinner.defined.append hmore.defined).cons _)
  · -- the calls of the content stand in the block of the component
    rw [hnames, List.flatMap_cons, Item.uses, if_neg huses, List.singleton_append, List.cons_append,
      List.flatMap_append, List.flatMap_cons]
    refine (List.Perm.trans ?_ (hinner.used.append hmore.used)).cons c.block
    simp only [Block.uses, List.perm_iff_count, List.count_append]
    intro name
    omega
  · intro front b back heq name hname
    obtain ⟨front', hfront, hback⟩ | ⟨back', hfront, hback⟩ := List.append_eq_append_iff.mp heq
    · cases front' with
      | nil =>
        -- the block of the component itself
        obtain ⟨rfl, -⟩ := List.cons.inj hback
        rw [hfront, List.append_nil]
        exact hinner.mem_names hname
      | cons own front' =>
        obtain ⟨rfl, htail⟩ := List.cons.inj hback
        have hmem := hmore.ordered front' b back htail name hname
        rw [hfront, List.map_append, List.map_cons]
        exact List.mem_append_right _ (.tail _ hmem)
    · cases back' with
      | nil =>
        obtain ⟨rfl, -⟩ := List.cons.inj hback.symm
        rw [← List.append_nil front, ← hfront]
        exact hinner.mem_names hname
      | cons b' back' =>
        obtain ⟨rfl, -⟩ := List.cons.inj hback
        exact hinner.ordered front b back' hfront name hname
  · have hsubset := List.append_subset.mp hblocks
    obtain ⟨hown, hrest⟩ := List.cons_subset.mp hsubset.2
    exact .content hne htag hblock hown (hinner.numbered blocks hsubset.1) (hmore.numbered blocks hrest)

lemma of_captureFrom {s : Scope} {captured : List Text}
    (hclosed : captureFrom d s nodes = .ok (closed, captured)) (h : l.Orderly count closed) :
    l.Orderly count nodes where
  count_eq := contentTags_captureFrom hclosed ▸ h.count_eq
  defined := by rw [blockNames, ← contentTags_captureFrom hclosed]; exact h.defined
  used := by rw [blockNames, ← contentTags_captureFrom hclosed]; exact h.used
  ordered := h.ordered
  numbered blocks hblocks := (h.numbered blocks hblocks).of_captureFrom hclosed

end Lowering.Orderly

lemma orderly_of_lowerNodes {l : Lowering} (h : lowerNodes d nested count nodes = .ok l) :
    l.Orderly count nodes := by
  fun_induction lowerNodes d nested count nodes generalizing l with
  | case1 =>
    cases h
    exact .nil
  | case3 nested count content rest more hmore ih =>
    cases h
    exact (ih hmore).raw content content
  | case6 nested count tag attributes rest selfClosing offset values hvalues more hmore ih =>
    cases h
    exact (ih hmore).empty rfl rfl
  | case11 =>
    rename_i content captured hcontent values _ inner hinner more hmore name carrier ihInner ihMore
    cases h
    obtain ⟨all, hall, -⟩ := exists_captureFrom_of_captureNodes hcontent
    exact ((ihInner hinner).of_captureFrom hall).component (ihMore hmore) (List.cons_ne_nil _ _) rfl rfl
  | case2 | case4 | case5 | case7 | case8 | case9 | case10 => cases h

/-- In a lowered template there is one block for each component with content at any depth, and its name
ends in the number of the component in document order; no two names are the same.  Every name is used by
one call, the call of its own component, and a component without content uses none.  A block stands behind
the blocks that are used in it. -/
theorem blocks_of_lower {l : Lowered} (h : lower nodes d = .ok l) :
    l.blocks.length = (contentTags nodes).length ∧
    (l.blocks.map Block.name).Perm (blockNames 0 nodes) ∧
    (l.blocks.map Block.name).Nodup ∧
    (l.body.flatMap Item.uses ++ l.blocks.flatMap Block.uses).Perm (blockNames 0 nodes) ∧
    Numbered l.blocks 0 nodes l.body (contentTags nodes).length ∧
    ∀ front b back, l.blocks = front ++ b :: back → ∀ name ∈ b.uses, name ∈ front.map Block.name := by
  unfold lower at h
  split at h
  · cases h
  rename_i result hresult
  cases h
  have horderly := orderly_of_lowerNodes hresult
  have hcount := horderly.count_eq
  have hlength := horderly.defined.length_eq
  rw [Nat.zero_add] at hcount
  rw [List.length_map, blockNames, List.length_map, List.length_zipIdx] at hlength
  exact ⟨hlength, horderly.defined, horderly.defined.nodup_iff.mpr nodup_blockNames, horderly.used,
    hcount ▸ horderly.numbered _ (List.Subset.refl _), horderly.ordered⟩

/-- Components with names that look like those of numbered blocks. -/
def twinNodes : List Node :=
  [.component "A__1" [] [.component "A" [] [.raw "x"] false 0, .component "B" [] [] true 0] false 0,
    .component "A" [] [.raw "y"] false 0]

/-- The blocks of the components `A` have the numbers two and three; the name of the first block ends in
two numbers. -/
def twinLowered : Lowered where
  blocks :=
    [⟨"glam__A__2", [.text "x"]⟩,
      ⟨"glam__A__1__1", [.call ⟨"A", "glam__A__2", [], .extended []⟩, .call ⟨"B", [], [], .absent⟩]⟩,
      ⟨"glam__A__3", [.text "y"]⟩]
  body := [.call ⟨"A__1", "glam__A__1__1", [], .fresh []⟩, .call ⟨"A", "glam__A__3", [], .fresh []⟩]

theorem blocks_of_lower_twins :
    lower twinNodes = .ok twinLowered ∧
    twinLowered.blocks.length = (contentTags twinNodes).length ∧
    (twinLowered.blocks.map Block.name).Perm (blockNames 0 twinNodes) ∧
    (twinLowered.blocks.map Block.name).Nodup ∧
    (twinLowered.body.flatMap Item.uses ++ twinLowered.blocks.flatMap Block.uses).Perm
      (blockNames 0 twinNodes) ∧
    Numbered twinLowered.blocks 0 twinNodes twinLowered.body (contentTags twinNodes).length ∧
    ∀ front b back, twinLowered.blocks = front ++ b :: back →
      ∀ name ∈ b.uses, name ∈ front.map Block.name := by
  have hx : captureIn .standard ⟨[], []⟩ "x" = .ok ⟨"x", [], ⟨[], []⟩⟩ := by with_unfolding_all rfl
  have hy : captureIn .standard ⟨[], []⟩ "y" = .ok ⟨"y", [], ⟨[], []⟩⟩ := by with_unfolding_all rfl
  have hraw : ∀ nested count (text : Text),
      lowerNodes .standard nested count [.raw text] = .ok ⟨[.text text], [], count⟩ :=
    fun nested count text => by simp only [lowerNodes]
  have hempty : lowerNodes .standard true 2 [.component "B" [] [] true 0] =
      .ok ⟨[.call ⟨"B", [], [], .absent⟩], [], 2⟩ := by
    simp only [lowerNodes, lowerAttributes]
  have hnil : lowerNodes .standard false 3 [] = .ok ⟨[], [], 3⟩ := by simp only [lowerNodes]
  have hinner : lowerNodes .standard true 1
      [.component "A" [] [.raw "x"] false 0, .component "B" [] [] true 0] =
        .ok ⟨[.call ⟨"A", "glam__A__2", [], .extended []⟩, .call ⟨"B", [], [], .absent⟩],
          [⟨"glam__A__2", [.text "x"]⟩], 2⟩ := by
    refine (lowerNodes_component_eq_ok_iff (by simp)).mpr ⟨[.raw "x"], [], [], _, _, ?_, ?_,
      hraw _ _ _, hempty, rfl⟩
    · simp only [captureNodes, captureFrom, hx]
      rfl
    · simp only [lowerAttributes]
  have hlast : lowerNodes .standard false 2 [.component "A" [] [.raw "y"] false 0] =
      .ok ⟨[.call ⟨"A", "glam__A__3", [], .fresh []⟩], [⟨"glam__A__3", [.text "y"]⟩], 3⟩ := by
    refine (lowerNodes_component_eq_ok_iff (by simp)).mpr ⟨[.raw "y"], [], [], _, _, ?_, ?_,
      hraw _ _ _, hnil, rfl⟩
    · simp only [captureNodes, captureFrom, hy]
      rfl
    · simp only [lowerAttributes]
  have hlower : lower twinNodes = .ok twinLowered := by
    rw [lower, twinNodes, (lowerNodes_component_eq_ok_iff (by simp)).mpr
      ⟨[.component "A" [] [.raw "x"] false 0, .component "B" [] [] true 0], [], [], _, _, ?_, ?_, hinner,
        hlast, rfl⟩]
    · rfl
    · have hnames : (⟨[], []⟩ : Scope).names = [] := rfl
      simp only [captureNodes, captureFrom, captureAttributes, hnames, hx]
      rfl
    · simp only [lowerAttributes]
  exact ⟨hlower, blocks_of_lower hlower⟩

end ComponentTags
