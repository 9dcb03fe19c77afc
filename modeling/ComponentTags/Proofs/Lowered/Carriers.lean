/-
# Carriers are sufficient

Content that is taken out into a block runs with the context that its call carries.  Whatever a block
reads from its context is there (`Block.Carried`): it was captured where the block is called or where one
of the blocks around it is.  What is captured within a block is bound there by the statements of the
block, so it can be read by its bare name.

Content is closed once for every component around it, but closing it again for the innermost of them
gives what closing it for that one alone gives (`captureFrom_composes`).  So the induction is on the nodes
as they stand in the template: the variables that a block needs are those that closing its content alone
captures, and a block around it has captured all of them that it does not bind.
-/
import ComponentTags.Proofs.Lowered.Supplied
import ComponentTags.Proofs.Lowered.Values
import ComponentTags.Proofs.Scope.Composition

namespace ComponentTags

open Delimiters (standard)

/-! ### The context of a block -/

/-- A block is called with a context that has some captured variables. -/
inductive CalledWith (l : Lowered) : Text → List Text → Prop
  /-- From the body of the template, with a new context. -/
  | fresh {c : Call} {captured : List Text} (hcall : .call c ∈ l.body)
      (hcarrier : c.carrier = .fresh captured) : CalledWith l c.block captured
  /-- From a block, with the context of that block and what is captured there. -/
  | extended {b : Block} {c : Call} {keys captured : List Text} (hblock : b ∈ l.blocks)
      (hkeys : CalledWith l b.name keys) (hcall : .call c ∈ b.body)
      (hcarrier : c.carrier = .extended captured) : CalledWith l c.block (keys ++ captured)

/-- A block gets what it reads, and its own components capture what it binds. -/
structure Block.Carried (l : Lowered) (b : Block) : Prop where
  /-- The block is called. -/
  called : ∃ keys, CalledWith l b.name keys
  /-- However it is called, what it reads is in its context. -/
  reads : ∀ keys n, CalledWith l b.name keys → b.Reads n → n ∈ keys
  /-- What its components capture is bound by its statements. -/
  bound : Bound ⟨[], []⟩ b.body

/-! ### Nodes without reserved names -/

/-- No name in the text or in the attributes of a node is reserved. -/
def Node.Unreserved : Node → Prop
  | .raw content => UnreservedText content
  | .component _ attributes _ _ _ => ∀ entry ∈ attributes, UnreservedValue entry.2

/-- No name in some nodes and below them is reserved. -/
def UnreservedNodes (nodes : List Node) : Prop := ∀ node ∈ Node.walk nodes, node.Unreserved

lemma unreservedNodes_raw_iff {content : Text} {rest : List Node} :
    UnreservedNodes (.raw content :: rest) ↔ UnreservedText content ∧ UnreservedNodes rest := by
  simp [UnreservedNodes, Node.walk, Node.withDescendants, Node.Unreserved]

lemma unreservedNodes_component_iff {tag : Text} {attributes : Table Text Text}
    {children rest : List Node} {selfClosing : Bool} {offset : Int} :
    UnreservedNodes (.component tag attributes children selfClosing offset :: rest) ↔
      (∀ entry ∈ attributes, UnreservedValue entry.2) ∧ UnreservedNodes children ∧
        UnreservedNodes rest := by
  simp only [UnreservedNodes, Node.walk, Node.withDescendants, List.cons_append, List.mem_cons,
    List.mem_append, or_imp, forall_and, forall_eq]
  exact Iff.rfl

/-! ### Lowering -/

section Lowering

variable {nested : Bool} {count : Nat} {nodes rest closed : List Node} {l : Lowering}

/-- What the values of closed attributes read is captured. -/
lemma mem_captured_of_reads_attributes {bound captured : List Text} {attributes entries : Table Text Text}
    {values : Table Text (List ValuePart)} (hno : ∀ entry ∈ attributes, UnreservedValue entry.2)
    (hentries : captureAttributes standard bound attributes = .ok (entries, captured))
    (hvalues : lowerAttributes standard entries = .ok values) {key e name : Text}
    {parts : List ValuePart} (hentry : (key, parts) ∈ values) (he : .expression e ∈ parts)
    (h : Reads (tokens e) name) : name ∈ captured := by
  induction attributes generalizing entries captured values with
  | nil =>
    cases hentries
    cases hvalues
    cases hentry
  | cons entry attributes ih =>
    obtain ⟨key', value⟩ := entry
    rw [captureAttributes] at hentries
    split at hentries
    · cases hentries
    rename_i r hr
    split at hentries
    · cases hentries
    rename_i more inMore hmore
    cases hentries
    rw [lowerAttributes] at hvalues
    split at hvalues
    · cases hvalues
    rename_i parts' hparts
    split at hvalues
    · cases hvalues
    rename_i moreValues hmoreValues
    cases hvalues
    obtain heq | hentry := List.mem_cons.mp hentry
    · obtain ⟨rfl, rfl⟩ := Prod.mk.inj heq
      exact List.mem_append_left _ (mem_captured_of_reads_value (hno _ (.head _)) hr hparts he h)
    · exact List.mem_append_right _
        (ih (fun entry hmem => hno entry (.tail _ hmem)) hmore hmoreValues hentry)

/-- Lowered content that is closed from a scope on: its blocks get what they need if the context has what
closing captures, its items read nothing else, and what they capture is bound. -/
lemma sound_of_captureFrom {s : Scope} {captured : List Text} (hno : UnreservedNodes nodes)
    (hclosed : captureFrom standard s nodes = .ok (closed, captured))
    (hl : lowerNodes standard true count closed = .ok l) :
    l.Sound true count captured ∧ (∀ item ∈ l.items, ∀ n, item.Reads n → n ∈ captured) ∧
      Bound s l.items := by
  induction nodes using Node.list_induction generalizing s count closed captured l with
  | nil =>
    rw [captureFrom] at hclosed
    cases hclosed
    rw [lowerNodes] at hl
    cases hl
    exact ⟨Lowering.sound_nil, fun item hitem => absurd hitem (by simp), bound_nil⟩
  | raw content rest ih =>
    obtain ⟨hcontent, hrest⟩ := unreservedNodes_raw_iff.mp hno
    rw [captureFrom] at hclosed
    split at hclosed
    · cases hclosed
    rename_i r hr
    split at hclosed
    · cases hclosed
    rename_i nodes inRest hnodes
    cases hclosed
    obtain ⟨more, hmore, rfl⟩ := exists_of_lowerNodes_raw hl
    obtain ⟨hsound, hreads, hbound⟩ := ih hrest hnodes hmore
    refine ⟨(hsound.mono fun n hn => List.mem_append_right _ hn).text _, ?_, ?_⟩
    · rintro item (_ | ⟨_, hitem⟩) n hn
      · exact List.mem_append_left _ (mem_captured_of_reads hcontent hr hn)
      · exact List.mem_append_right _ (hreads item hitem n hn)
    · exact .text (scopeBehind_captureIn hr ▸ hbound)
  | component tag attributes children selfClosing offset rest ihChildren ihRest =>
    obtain ⟨hattributes, hchildren, hrest⟩ := unreservedNodes_component_iff.mp hno
    rw [captureFrom] at hclosed
    split at hclosed
    · cases hclosed
    rename_i entries inAttributes hentries
    split at hclosed
    · cases hclosed
    rename_i inner inChildren hinner
    split at hclosed
    · cases hclosed
    rename_i nodes inRest hnodes
    cases hclosed
    have hvalue : ∀ {tag block : Text} {values : Table Text (List ValuePart)} {carrier : Carrier},
        lowerAttributes standard entries = .ok values → ∀ n,
          (Item.call ⟨tag, block, values, carrier⟩).Reads n → n ∈ inAttributes := by
      rintro tag block values carrier hvalues n (_ | ⟨hentry, hpart, hreads⟩)
      exact mem_captured_of_reads_attributes hattributes hentries hvalues hentry hpart hreads
    by_cases hempty : children = []
    · subst hempty
      rw [captureFrom] at hinner
      cases hinner
      obtain ⟨values, more, hvalues, hmore, rfl⟩ := exists_of_lowerNodes_empty hl
      obtain ⟨hsound, hreads, hbound⟩ := ihRest hrest hnodes hmore
      refine ⟨(hsound.mono fun n hn => List.mem_append_right _ hn).empty rfl, ?_, hbound.call ?_⟩
      · rintro item (_ | ⟨_, hitem⟩) n hn
        · exact List.mem_append_left _ (List.mem_append_left _ (hvalue hvalues n hn))
        · exact List.mem_append_right _ (hreads item hitem n hn)
      · intro captured hcarrier
        cases hcarrier
    · -- closing the children once more gives what closing them alone gives
      have hadds : Scope.Adds s.names ⟨[], []⟩ ⟨s.names, []⟩ := ⟨rfl, fun n => by simp⟩
      obtain ⟨outer, all, houter, hagain, rfl⟩ := captureFrom_composes hadds hinner
      obtain ⟨content, captured, values, below, more, hcontent, hvalues, hbelow, hmore, rfl⟩ :=
        (lowerNodes_component_eq_ok_iff (mt (eq_nil_of_captureFrom hinner) hempty)).mp hl
      rw [captureNodes, hagain] at hcontent
      cases hcontent
      obtain ⟨hsound, hreads, hbound⟩ := ihChildren hchildren houter hbelow
      obtain ⟨hsound', hreads', hbound'⟩ := ihRest hrest hnodes hmore
      refine ⟨hsound.component hreads hbound (hsound'.mono fun n hn => List.mem_append_right _ hn) ?_,
        ?_, hbound'.call ?_⟩
      · intro n hn
        by_cases hbinds : s.names.contains n = true
        · exact .inl (List.mem_eraseDups.mpr (List.mem_filter.mpr ⟨hn, hbinds⟩))
        · refine .inr ⟨rfl, List.mem_append_left _ (List.mem_append_right _ ?_)⟩
          exact List.mem_filter.mpr ⟨hn, by simpa using hbinds⟩
      · rintro item (_ | ⟨_, hitem⟩) n hn
        · exact List.mem_append_left _ (List.mem_append_left _ (hvalue hvalues n hn))
        · exact List.mem_append_right _ (hreads' item hitem n hn)
      · intro captured hcarrier n hn
        cases hcarrier
        simpa using (List.mem_filter.mp (List.mem_eraseDups.mp hn)).2

/-- In a lowered template all blocks get what they need. -/
lemma sound_of_lowerNodes (hno : UnreservedNodes nodes)
    (hl : lowerNodes standard false count nodes = .ok l) : l.Sound false count [] := by
  induction nodes using Node.list_induction generalizing count l with
  | nil =>
    rw [lowerNodes] at hl
    cases hl
    exact Lowering.sound_nil
  | raw content rest ih =>
    obtain ⟨more, hmore, rfl⟩ := exists_of_lowerNodes_raw hl
    exact (ih (unreservedNodes_raw_iff.mp hno).2 hmore).text content
  | component tag attributes children selfClosing offset rest _ ih =>
    obtain ⟨-, hchildren, hrest⟩ := unreservedNodes_component_iff.mp hno
    by_cases hempty : children = []
    · subst hempty
      obtain ⟨values, more, -, hmore, rfl⟩ := exists_of_lowerNodes_empty hl
      exact (ih hrest hmore).empty rfl
    · obtain ⟨content, captured, values, below, more, hcontent, -, hbelow, hmore, rfl⟩ :=
        (lowerNodes_component_eq_ok_iff hempty).mp hl
      unfold captureNodes at hcontent
      split at hcontent
      · cases hcontent
      rename_i all hall
      cases hcontent
      obtain ⟨hsound, hreads, hbound⟩ := sound_of_captureFrom hchildren hall hbelow
      exact hsound.component hreads hbound (ih hrest hmore) fun n hn =>
        .inl (List.mem_eraseDups.mpr hn)

end Lowering

variable {low high : Nat} {needs : Nat → List Text} {keys keys' : List Text}

/-- However a block is called, its context has what it needs. -/
lemma mem_of_calledWith {l : Lowered} {name : Text} {number : Nat}
    (hcalls : ∀ c, .call c ∈ l.body → c.Supplied false low high needs keys)
    (hblocks : ∀ b ∈ l.blocks, b.Supplied low high needs) (h : CalledWith l name keys')
    {tag : Text} (hname : name = blockName tag number) : ∀ n ∈ needs number, n ∈ keys' := by
  induction h generalizing tag number with
  | @fresh c captured hcall hcarrier =>
    intro n hn
    cases hcalls c hcall with
    | absent habsent =>
      rw [habsent] at hcarrier
      cases hcarrier
    | content hblock _ _ hcontent hneeds =>
      rw [hcontent] at hcarrier
      cases hcarrier
      obtain rfl := number_eq_of_blockName_eq (hblock.symm.trans hname)
      exact (hneeds n hn).resolve_right fun h => by cases h.1
  | @extended b c keys captured hblock _ hcall hcarrier ih =>
    intro n hn
    obtain ⟨tag', number', hname', -, -, -, hsupplied⟩ := (hblocks b hblock).numbered
    cases hsupplied c hcall with
    | absent habsent =>
      rw [habsent] at hcarrier
      cases hcarrier
    | content hblock _ _ hcontent hneeds =>
      rw [hcontent] at hcarrier
      cases hcarrier
      obtain rfl := number_eq_of_blockName_eq (hblock.symm.trans hname)
      obtain hn | ⟨-, hn⟩ := hneeds n hn
      · exact List.mem_append_right _ hn
      · exact List.mem_append_left _ (ih hname' n hn)

/-- A called block is called with some context. -/
lemma exists_calledWith {l : Lowered} {name : Text}
    (hcalls : ∀ c, .call c ∈ l.body → c.Supplied false low high needs keys)
    (hblocks : ∀ b ∈ l.blocks, b.Supplied low high needs) (h : Called l.body l.blocks name) :
    ∃ keys, CalledWith l name keys := by
  induction h with
  | @item c hcall hcarrier =>
    cases hcalls c hcall with
    | absent habsent => exact absurd habsent hcarrier
    | content _ _ _ hcontent _ => exact ⟨_, .fresh hcall hcontent⟩
  | @block b c hblock _ hcall hcarrier ih =>
    obtain ⟨keys, hkeys⟩ := ih
    obtain ⟨tag, number, -, -, -, -, hsupplied⟩ := (hblocks b hblock).numbered
    cases hsupplied c hcall with
    | absent habsent => exact absurd habsent hcarrier
    | content _ _ _ hcontent _ => exact ⟨_, .extended hblock hkeys hcall hcontent⟩

/-- In a lowered template every block is called and has in its context what it reads there, and what a
component captures is bound at its place.  In the body of the template no component extends a context, as
there is none. -/
theorem carried_of_lower {nodes : List Node} {l : Lowered} (hno : UnreservedNodes nodes)
    (h : lower nodes = .ok l) :
    (∀ b ∈ l.blocks, b.Carried l) ∧
      ∀ c captured, .call c ∈ l.body → c.carrier ≠ .extended captured := by
  unfold lower at h
  split at h
  · cases h
  rename_i result hresult
  cases h
  obtain ⟨-, ⟨needs, hcalls, hblocks⟩, hcalled⟩ := sound_of_lowerNodes hno hresult
  refine ⟨fun b hb => ⟨exists_calledWith hcalls hblocks (hcalled b hb), ?_, (hblocks b hb).bound⟩, ?_⟩
  · intro keys n hkeys hn
    obtain ⟨tag, number, hname, -, -, hreads, -⟩ := (hblocks b hb).numbered
    exact mem_of_calledWith hcalls hblocks hkeys hname n (hreads n hn)
  · intro c captured hc hcarrier
    cases hcalls c hc with
    | absent habsent =>
      rw [habsent] at hcarrier
      cases hcarrier
    | content _ _ _ hcontent _ =>
      rw [hcontent] at hcarrier
      cases hcarrier

/-- A reserved name needs its first letter. -/
lemma unreserved_of_notMem {text : Text} (h : 'g' ∉ text) : Unreserved (tokens text) := by
  intro t ht _
  rw [Bool.eq_false_iff]
  intro hreserved
  obtain ⟨more, hmore⟩ := List.isPrefixOf_iff_prefix.mp hreserved
  have hmem : 'g' ∈ t.text := by
    rw [← hmore]
    exact List.mem_append_left _ (.head _)
  rw [← tokens_join text] at h
  exact h (List.mem_flatMap.mpr ⟨t, ht, hmem⟩)

/-- A text is unreserved if the first letter of the reserved names is in none of its spans. -/
lemma unreservedText_of_pieces {text : Text} (spans : List (SpanKind × Text))
    (hpieces : pieces standard 0 text = .ok (spans.map fun span => .span span.1 span.2))
    (hspans : spans.all (fun span => !(Span.split standard span.1 span.2).body.contains 'g') = true) :
    UnreservedText text := by
  intro ps hps kind span hspan
  obtain rfl := Except.ok.inj (hps.symm.trans hpieces)
  obtain ⟨⟨kind', span'⟩, hmem, heq⟩ := List.mem_map.mp hspan
  obtain ⟨rfl, rfl⟩ := Piece.span.inj heq
  have hno := List.all_eq_true.mp hspans _ hmem
  exact unreserved_of_notMem (by simpa using hno)

/-- A component in a loop in the content of another component.  The reserved letters may stand in a string
literal. -/
def loopNodes : List Node :=
  [.component "A" [] [.raw "\x7b% for x in xs %\x7d",
    .component "B" [("p", "\x7b\x7b x ~ y ~ 'glam__' \x7d\x7d")] [.raw "\x7b\x7b x \x7d\x7d\x7b\x7b y \x7d\x7d"] false 0,
    .raw "\x7b% endfor %\x7d"] false 0]

/-- The inner component gets the variable of the loop from the block around it, and everything else from
the context of that block. -/
def loopLowered : Lowered where
  blocks :=
    [⟨"glam__B__2", [.text ("\x7b\x7b glam__ctx.locals[\"x\"] \x7d\x7d" ++
        "\x7b\x7b glam__ctx.locals[\"y\"] \x7d\x7d")]⟩,
      ⟨"glam__A__1", [.text "\x7b% for x in glam__ctx.locals[\"xs\"] %\x7d",
        .call ⟨"B", "glam__B__2", [("p", [.expression "x ~ glam__ctx.locals[\"y\"] ~ 'glam__'"])],
          .extended ["x"]⟩,
        .text "\x7b% endfor %\x7d"]⟩]
  body := [.call ⟨"A", "glam__A__1", [], .fresh ["xs", "y"]⟩]

lemma unreservedNodes_loopNodes : UnreservedNodes loopNodes := by
  have hvalue : UnreservedValue "\x7b\x7b x ~ y ~ 'glam__' \x7d\x7d" := by
    have hparts : valueParts standard "\x7b\x7b x ~ y ~ 'glam__' \x7d\x7d" =
        .ok [.expression "x ~ y ~ 'glam__'"] := by
      with_unfolding_all rfl
    have htokens : tokens "x ~ y ~ 'glam__'" =
        [⟨.name, "x"⟩, ⟨.blank, " "⟩, ⟨.sign, "~"⟩, ⟨.blank, " "⟩, ⟨.name, "y"⟩, ⟨.blank, " "⟩,
          ⟨.sign, "~"⟩, ⟨.blank, " "⟩, ⟨.string, "'glam__'"⟩] := by
      with_unfolding_all rfl
    intro parts hvalue e he
    obtain rfl := Except.ok.inj (hparts.symm.trans hvalue)
    obtain rfl := ValuePart.expression.inj (List.mem_singleton.mp he)
    rw [htokens, Unreserved]
    decide
  rw [loopNodes, unreservedNodes_component_iff, unreservedNodes_raw_iff, unreservedNodes_component_iff,
    unreservedNodes_raw_iff, unreservedNodes_raw_iff]
  refine ⟨by simp, ⟨?_, ?_, ⟨?_, by simp [UnreservedNodes, Node.walk]⟩, ?_, ?_⟩, ?_⟩
  · exact unreservedText_of_pieces [(.statement, "\x7b% for x in xs %\x7d")]
      (by with_unfolding_all rfl) (by decide)
  · simpa using hvalue
  · exact unreservedText_of_pieces [(.expression, "\x7b\x7b x \x7d\x7d"), (.expression, "\x7b\x7b y \x7d\x7d")]
      (by with_unfolding_all rfl) (by decide)
  · exact unreservedText_of_pieces [(.statement, "\x7b% endfor %\x7d")]
      (by with_unfolding_all rfl) (by decide)
  · simp [UnreservedNodes, Node.walk]
  · simp [UnreservedNodes, Node.walk]

/-- The content of the outer component, closed. -/
lemma captureNodes_loopNodes :
    captureNodes [.raw "\x7b% for x in xs %\x7d",
      .component "B" [("p", "\x7b\x7b x ~ y ~ 'glam__' \x7d\x7d")]
        [.raw "\x7b\x7b x \x7d\x7d\x7b\x7b y \x7d\x7d"] false 0,
      .raw "\x7b% endfor %\x7d"] =
        .ok ([.raw "\x7b% for x in glam__ctx.locals[\"xs\"] %\x7d",
          .component "B" [("p", "\x7b\x7b x ~ glam__ctx.locals[\"y\"] ~ 'glam__' \x7d\x7d")]
            [.raw "\x7b\x7b x \x7d\x7d\x7b\x7b glam__ctx.locals[\"y\"] \x7d\x7d"] false 0,
          .raw "\x7b% endfor %\x7d"], ["xs", "y"]) := by
  have hfor : captureIn standard ⟨[], []⟩ "\x7b% for x in xs %\x7d" =
      .ok ⟨"\x7b% for x in glam__ctx.locals[\"xs\"] %\x7d", ["xs"],
        ⟨[], [⟨"endfor", ["x", "loop"]⟩]⟩⟩ := by
    with_unfolding_all rfl
  have hendfor : captureIn standard ⟨[], [⟨"endfor", ["x", "loop"]⟩]⟩ "\x7b% endfor %\x7d" =
      .ok ⟨"\x7b% endfor %\x7d", [], ⟨[], []⟩⟩ := by
    with_unfolding_all rfl
  have hvalue : captureIn standard ⟨["x", "loop"], []⟩ "\x7b\x7b x ~ y ~ 'glam__' \x7d\x7d" =
      .ok ⟨"\x7b\x7b x ~ glam__ctx.locals[\"y\"] ~ 'glam__' \x7d\x7d", ["y"], ⟨["x", "loop"], []⟩⟩ := by
    with_unfolding_all rfl
  have houter : captureIn standard ⟨["x", "loop"], []⟩
      "\x7b\x7b x \x7d\x7d\x7b\x7b y \x7d\x7d" =
        .ok ⟨"\x7b\x7b x \x7d\x7d\x7b\x7b glam__ctx.locals[\"y\"] \x7d\x7d", ["y"],
          ⟨["x", "loop"], []⟩⟩ := by
    with_unfolding_all rfl
  have hnames : (⟨[], [⟨"endfor", ["x", "loop"]⟩]⟩ : Scope).names = [("x" : Text), "loop"] := rfl
  simp only [captureNodes, captureFrom, captureAttributes, hfor, hnames, hvalue, houter, hendfor]
  rfl

/-- Lowering closes the content of the outer component, and in it that of the inner one. -/
lemma lower_loopNodes : lower loopNodes = .ok loopLowered := by
  have hinner : captureIn standard ⟨[], []⟩
      "\x7b\x7b x \x7d\x7d\x7b\x7b glam__ctx.locals[\"y\"] \x7d\x7d" =
        .ok ⟨"\x7b\x7b glam__ctx.locals[\"x\"] \x7d\x7d" ++
          "\x7b\x7b glam__ctx.locals[\"y\"] \x7d\x7d", ["x"], ⟨[], []⟩⟩ := by
    with_unfolding_all rfl
  have hparts : valueParts standard "\x7b\x7b x ~ glam__ctx.locals[\"y\"] ~ 'glam__' \x7d\x7d" =
      .ok [.expression "x ~ glam__ctx.locals[\"y\"] ~ 'glam__'"] := by
    with_unfolding_all rfl
  have hcontent : captureNodes [.raw "\x7b\x7b x \x7d\x7d\x7b\x7b glam__ctx.locals[\"y\"] \x7d\x7d"] =
      .ok ([.raw ("\x7b\x7b glam__ctx.locals[\"x\"] \x7d\x7d" ++
        "\x7b\x7b glam__ctx.locals[\"y\"] \x7d\x7d")], ["x"]) := by
    simp only [captureNodes, captureFrom, hinner]
    rfl
  have hattributes : lowerAttributes standard
      [("p", "\x7b\x7b x ~ glam__ctx.locals[\"y\"] ~ 'glam__' \x7d\x7d")] =
        .ok [("p", [.expression "x ~ glam__ctx.locals[\"y\"] ~ 'glam__'"])] := by
    simp only [lowerAttributes, hparts]
  have hbelow : lowerNodes standard true 1
      [.raw "\x7b% for x in glam__ctx.locals[\"xs\"] %\x7d",
        .component "B" [("p", "\x7b\x7b x ~ glam__ctx.locals[\"y\"] ~ 'glam__' \x7d\x7d")]
          [.raw "\x7b\x7b x \x7d\x7d\x7b\x7b glam__ctx.locals[\"y\"] \x7d\x7d"] false 0,
        .raw "\x7b% endfor %\x7d"] = .ok ⟨(loopLowered.blocks.drop 1).flatMap Block.body,
          loopLowered.blocks.take 1, 2⟩ := by
    have hraw : ∀ text : Text, lowerNodes standard true 2 [.raw text] = .ok ⟨[.text text], [], 2⟩ :=
      fun text => by simp only [lowerNodes]
    rw [lowerNodes, (lowerNodes_component_eq_ok_iff (by simp)).mpr
      ⟨_, _, _, _, _, hcontent, hattributes, hraw _, hraw _, rfl⟩]
    rfl
  have hnil : lowerNodes standard false 2 [] = .ok ⟨[], [], 2⟩ := by simp only [lowerNodes]
  rw [lower, loopNodes, (lowerNodes_component_eq_ok_iff (by simp)).mpr
    ⟨_, _, [], _, _, captureNodes_loopNodes, by simp only [lowerAttributes], hbelow, hnil, rfl⟩]
  rfl

theorem carried_of_lower_loop :
    UnreservedNodes loopNodes ∧ lower loopNodes = .ok loopLowered ∧
      (∀ b ∈ loopLowered.blocks, b.Carried loopLowered) ∧
        ∀ c captured, .call c ∈ loopLowered.body → c.carrier ≠ .extended captured :=
  ⟨unreservedNodes_loopNodes, lower_loopNodes, carried_of_lower unreservedNodes_loopNodes lower_loopNodes⟩

end ComponentTags
