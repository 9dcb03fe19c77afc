/-
# Calls for components that show their children

A component whose only field receives the children, and whose template puts them out, is transparent: what a call
for it gives is what the block of its content gives (`gives_renderCall`).  Where the call for a content stands, with
the macro of the content among the variables of the template, it gives what the content puts out there
(`gives_call`).
-/
import ComponentTags.Proofs.Hoisting.Boxes
import ComponentTags.Proofs.Hoisting.Values
import ComponentTags.Proofs.Names
import ComponentTags.Proofs.Table

namespace ComponentTags.Hoisting

open Template

variable {s : Setting} {call : Caller} {st : Store} {p : Place} {sc : Scene} {components : Components language}
  {fuel : Nat} {home : Running (List Statement)}

/-! ### Boxes -/

lemma isName_childrenName : Printed.IsName childrenName := ⟨by decide, by decide, by decide⟩

/-- The span that puts out the children. -/
def childrenChunk : Chunk := .value (.name childrenName isName_childrenName)

/-- Components with children that their template puts out. -/
structure IsTransparent (r : Registration language) : Prop extends HasChildren r.type where
  /-- The template is made of the children. -/
  tree_eq : r.template.tree = chunkStatements [] [childrenChunk]

lemma shown_markup {t : Text} : s.shown (.markup t) = .ok t := by
  unfold Setting.shown
  split <;> rfl

/-- The template of a transparent component puts out the children. -/
lemma gives_renderInstance {r : Registration language} {component root functions : Value} {t : Text} (hr : IsTransparent r)
    (hcomponent : (r.type.fieldValues component).get? childrenName = some (.markup t)) :
    st.Gives (renderInstance s call r component root functions) (.ok t) := by
  have hgiven : (templateVariables r.type component root functions).get? childrenName = some (.markup t) := by
    have hnodup : (r.type.fieldValues component).keys.Nodup := Table.nodup_keys_setAll (t := []) List.nodup_nil
    rw [templateVariables, Table.get?_set, if_neg (by decide), Table.get?_set, if_neg (by decide), Table.get?_set,
      if_neg (by decide), Table.get?_setAll hnodup, hcomponent, Option.some_or]
  have hrun : ∀ st', st.GoesOn st' →
      st'.PutsOut (startTemplate s call r component root functions) (.ok t) := by
    refine fun st' _ => putsOut_startTemplate fun st'' _ => ?_
    rw [hr.tree_eq]
    refine putsOut_execTemplate fun st₁ p₁ _ _ hshows => ?_
    have hcells : Scene.entered ⟨[], templateVariables r.type component root functions⟩ s
        (templateNames (chunkStatements [] [childrenChunk])) [] = [] := by
      rw [Scene.entered, templateNames, set_statements_chunkStatements]
      rfl
    rw [hcells] at hshows
    have hmeaning : meaningIn s ⟨[[]], templateVariables r.type component root functions⟩ childrenName = .markup t := by
      simp [meaningIn, Scene.value?, Scene.global?, Table.get?, hgiven]
    have hchildren : Chunk.ComesTo s call p₁ st₁ childrenChunk (.ok t) :=
      ⟨.ok (.markup t), fun st₂ hst₂ => .of_eq (hmeaning ▸ eval_name (hshows.goesOn hst₂)), shown_markup.symm⟩
    have hout := putsOut_chunks (.cons hchildren .nil)
    rwa [joined, joined, together_nil_right] at hout
  have hcaptured := Store.Gives.captured hrun
  exact hcaptured.recovering

/-- A call for a transparent component gives what the block of its content gives. -/
theorem gives_renderCall {r : Registration language} {tag block carrier : Value} {content : Except Failure Text}
    (hr : IsTransparent r) (hcomponents : components.get? tag.shown = some r)
    (hblock : st.Gives (renderBlock (L := language) s call p home block carrier) (content.map .markup)) :
    st.Gives (renderCall components s call p home tag block (.dict []) carrier) (content.map .markup) := by
  have hresult : content.map Value.markup = content.map Value.markup >>= .ok := (bind_pure (content.map Value.markup)).symm
  rw [renderCall, hcomponents, hresult]
  dsimp only
  rw [if_pos hr.isSome_childrenField]
  refine hblock.gives_bind fun v hv st₁ _ => ?_
  obtain ⟨t, -, rfl⟩ : ∃ t, content = .ok t ∧ .markup t = v := by
    cases content with
    | error f => cases hv
    | ok t => exact ⟨t, rfl, Except.ok.inj hv⟩
  obtain ⟨component, hcomponent, hchildren⟩ := hr.exists_instance (.markup t)
  have hrest (st₁ : Store) (root : Value) : st₁.Gives (do
      let functions := (← lookUpName (L := language) s p home functionsName).getD .none
      return Value.markup (← renderInstance s call r component root functions)) (.ok (Value.markup t)) := by
    obtain ⟨st₂, hfunctions, hst₂, hout⟩ := exists_lookUpName s st₁ p home functionsName
    refine .of_bind hfunctions hst₂ hout ?_
    exact (gives_renderInstance hr hchildren).gives_bind (k := fun t => pure (Value.markup t))
      (q := fun t => .ok (Value.markup t)) fun t _ st₂ _ => .of_eq rfl
  have hmade : Action.of (r.type.instantiate [] (some (.markup t))) st₁ = (.ok component, st₁) := by
    rw [hcomponent]
    rfl
  refine .of_bind (a := pure (some (Value.markup t))) rfl (.refl st₁) rfl ?_
  refine .of_bind (a := Action.of (attributesOf (.dict []))) rfl (.refl st₁) rfl (.of_bind hmade (.refl st₁) rfl ?_)
  split
  · exact .of_bind rfl (.refl st₁) rfl (hrest st₁ _)
  · obtain ⟨st₂, hroot, hst₂, hout⟩ := exists_lookUpName s st₁ p home rootName
    exact .of_bind hroot hst₂ hout (.of_bind rfl (.refl st₂) rfl (hrest st₂ _))

/-! ### Blocks -/

/-- A component without a block has no children. -/
lemma gives_renderBlock_none (carrier : Value) :
    st.Gives (renderBlock (L := language) s call p home (.text []) carrier) (.ok (.markup [])) :=
  .of_eq rfl

/-- The block of a name gives what its macro puts out. -/
lemma gives_renderBlock {name : Text} {carrier : Value} {cells : Table Text (Option Value)} {c : Callable}
    {content : Except Failure Text} (hname : name ≠ []) (hshows : st.Shows p sc) (hp : p.IsRooted)
    (hlast : sc.blocks.getLast? = some cells) (hc : cells.get? name = some (some (.callable c)))
    (hcall : ∀ st', st.GoesOn st' →
      st'.Gives (call p (.callable c) { placed := [carrier] }) (content.map s.content)) :
    st.Gives (renderBlock (L := language) s call p home (.text name) carrier) (content.map .markup) := by
  have htruth : (Value.text name).truth = true := by simpa [Value.truth, Value.length?] using hname
  obtain ⟨st₁, hfound, hst₁, hout⟩ := exists_lookUpName s st p home name
  rw [hshows.lookUp?_eq hp hlast hc] at hfound
  have hresult : content.map Value.markup = content.map s.content >>= fun v => v.display.map Value.markup := by
    cases content with
    | error f => rfl
    | ok t =>
      show _ = (s.content t).display.map Value.markup
      unfold Setting.content
      split <;> rfl
  rw [renderBlock, htruth, hresult]
  refine .of_bind hfound hst₁ hout ?_
  let st₂ : Store :=
    { st₁ with owned := { st₁.owned with journal := .entered home carrier :: st₁.owned.journal } }
  have hst₂ : Store.GoesOn st₁ st₂ := .of_memory rfl
  refine .of_bind rfl hst₂ rfl ?_
  refine (hcall st₂ (hst₁.trans hst₂)).gives_bind fun v _ st₃ _ => .of_eq ?_
  show (Action.of v.display >>= _) st₃ = _
  cases v.display <;> rfl

/-! ### Calls -/

/-- A content that has been closed reads none of the names with a meaning of their own in macros. -/
lemma Content.readFirst_closed (c : Content) :
    readFirst specialNames (mentionsAll (chunkStatements [] c.closed)) = [] := by
  refine readFirst_eq_nil fun n hn hmem => ?_
  rw [mentionsAll_chunkStatements] at hmem
  cases Content.mem_mentions_closed hmem
  exact absurd hn (by decide)

/-- The macro of a content is a variable of the template that a place belongs to. -/
structure Holds (st : Store) (sc : Scene) (name : Text) (c : Content) : Prop where
  /-- The outermost block has the macro under its name. -/
  exists_definition : ∃ number cells place outer, sc.blocks.getLast? = some cells ∧
    cells.get? name = some (some (.callable (.macroCall number name))) ∧
    st.memory.macros[number]? = some ⟨[⟨contextName, none⟩], chunkStatements [] c.closed, place⟩ ∧ st.Shows place outer

lemma Holds.inside {st' : Store} {name : Text} {c : Content} {cells : Table Text (Option Value)} (h : Holds st sc name c)
    (hst : st.GoesOn st') : Holds st' (sc.inside cells) name c := by
  obtain ⟨number, last, place, outer, hlast, hvalue, hm, houter⟩ := h.exists_definition
  refine ⟨number, last, place, outer, ?_, hvalue, hst.macros _ _ hm, houter.goesOn hst⟩
  rw [Scene.inside, List.getLast?_cons, hlast, Option.getD_some]

lemma joined_outcomes_of_write_eq_nil {c : Content} {meaning : Text → Value} (h : writeChunks c.opened = []) :
    joined (c.outcomes s meaning) = .ok [] := by
  induction c with
  | nil => rfl
  | cons part c ih =>
    obtain ⟨hpart, hrest⟩ := List.append_eq_nil_iff.mp (show part.opened.write ++ writeChunks (Content.opened c) = [] from h)
    cases part with
    | text t plain =>
      obtain rfl : t = [] := hpart
      exact (together_nil_left _).trans (ih hrest)
    | path x => cases hpart

/-- The call for a box gives what its block gives. -/
lemma gives_boxCall {r : Registration language} {b : Box} {block : Text} {hblock : '\r' ∉ block} {carrier : Printed}
    {v : Value} {content : Except Failure Text} (hr : IsTransparent r)
    (hcomponents : components.get? b.text = some r)
    (hshows : st.Shows p sc) (hrender : meaningIn s sc renderFunction = .callable .renderer)
    (hcarrier : HasValue s (callWithin components s (fuel + 1)) p st carrier.expr v)
    (hgives : ∀ home st', st.GoesOn st' → st'.Gives
      (renderBlock (L := language) s (callWithin components s fuel) p home (.text block) v) (content.map .markup)) :
    st.Gives ((b.call block hblock carrier).expr.eval s (callWithin components s (fuel + 1)) p)
      (content.map .markup) := by
  have hname : (Expr.name renderFunction).eval s (callWithin components s (fuel + 1)) p st =
      (.ok (meaningIn s sc renderFunction), st) := eval_name hshows
  rw [hrender] at hname
  have hdict : HasValue s (callWithin components s (fuel + 1)) p st (.dict []) (.dict []) :=
    fun _ _ => .of_eq (by rw [Expr.eval, evalEntries]; rfl)
  obtain ⟨st₁, heval, hst₁, hout⟩ := gives_evalArguments_placed (.cons (.literal (.text b.text))
    (.cons (.literal (.text block)) (.cons hdict (.cons hcarrier .nil)))) {}
  show st.Gives ((Expr.call (.name renderFunction) (([.literal (.text b.text), .literal (.text block), .dict [],
    carrier.expr] : List Expr).map fun e => (.placed, e))).eval s _ p) _
  rw [Expr.eval]
  refine .of_bind hname (.refl st) rfl ?_
  refine .of_bind heval hst₁ (hout.trans (List.append_nil _)) ?_
  show Store.Gives st₁ (callWithin components s (fuel + 1) p (.callable .renderer)
    { placed := [.text b.text, .text block, .dict [], v] }) _
  have htag : components.get? (Value.text b.text).shown = some r := hcomponents
  rw [callWithin]
  refine gives_answer fun home st₂ hst₂ => ?_
  exact gives_renderCall hr htag (hgives home st₂ (hst₁.trans hst₂))

lemma meaningIn_inside {n : Text} {v : Value} : meaningIn s (sc.inside [(n, some v)]) n = v := by
  simp [meaningIn, Scene.value?, Scene.inside, Table.get?]

/-- The call for a content gives what the content puts out where the call stands. -/
theorem gives_call {r : Registration language} {b : Box} {c : Content} (hr : IsTransparent r)
    (hcomponents : components.get? b.text = some r) (hshows : st.Shows p sc) (hp : p.IsRooted)
    (hrender : meaningIn s sc renderFunction = .callable .renderer)
    (hscope : meaningIn s sc scopeFunction = .callable .scopeMaker)
    (hholds : writeChunks c.opened ≠ [] → Holds st sc (blockName b.text 1) c) :
    st.Gives ((c.call b).expr.eval s (callWithin components s (fuel + 2)) p)
      ((joined (c.outcomes s (meaningIn s sc))).map .markup) := by
  unfold Content.call
  split
  · next hempty =>
    rw [joined_outcomes_of_write_eq_nil hempty]
    exact gives_boxCall hr hcomponents hshows hrender (.literal .none) fun _ _ _ => gives_renderBlock_none _
  · next hfull =>
    obtain ⟨number, cells, place, outer, hlast, hvalue, hm, houter⟩ := (hholds hfull).exists_definition
    have hcontext := hasValue_freshContext components (fuel + 1) hshows hscope
      (Content.isName_of_mem_names (c := c)) (nodup_eraseDups _)
    have hgives (st₁ : Store) (hst₁ : st.GoesOn st₁) :
        st₁.Gives (callMacro s (callWithin components s fuel) number (blockName b.text 1)
          { placed := [capture (meaningIn s sc) c.names] })
          ((joined (c.outcomes s (meaningIn s sc))).map s.content) := by
      refine gives_callMacro (houter.goesOn hst₁) (hst₁.macros _ _ hm)
        (Content.readFirst_closed c) fun st₂ p₂ _ hshows₂ => ?_
      exact putsOut_chunks (c.comesTo_closed hshows₂ meaningIn_inside)
    have hname : blockName b.text 1 ≠ [] := by simp [blockName]
    refine gives_boxCall hr hcomponents hshows hrender hcontext fun home st₁ hst₁ => ?_
    exact gives_renderBlock hname (hshows.goesOn hst₁) hp hlast hvalue fun st₂ hst₂ =>
      hgives st₂ (hst₁.trans hst₂)

end ComponentTags.Hoisting
