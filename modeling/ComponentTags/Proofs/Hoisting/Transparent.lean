/-
# Boxes make no difference

The template of a box puts out its children and nothing else.  If a page can be registered as it stands, it can be
registered with its content between the tags of a box (`register_hoisted`), and then every component is rendered in
the same way: the same text is put out, or rendering fails for the same reason.
-/
import ComponentTags.Proofs.Engine.Bookkeeping
import ComponentTags.Proofs.Engine.Ends
import ComponentTags.Proofs.Hoisting.Outcomes

namespace ComponentTags.Hoisting

open Delimiters (standard)
open Engine (Reachable Registers Settled)
open Template

variable {e e' : Engine language} {sources : Table Text Text} {name source : Text} {compiled : Compiled}
  {statements : List Statement} {b : Box} {p : Page}

/-! ### Compiled templates -/

/-- An engine with the usual delimiters, in whose templates a component can be open. -/
structure IsStandard (e : Engine language) : Prop where
  delimiters_eq : e.delimiters = standard
  levels_pos : 0 < e.levels

lemma IsStandard.of_registers (hs : IsStandard e) (hstep : Registers e name source e') : IsStandard e' :=
  ⟨hstep.delimiters_eq.trans hs.delimiters_eq, hstep.levels_eq ▸ hs.levels_pos⟩

lemma accept_of_read {d : Delimiters} {lowered : Text} (h : language.read d lowered = .ok statements) :
    accept d lowered = .ok statements := by
  change (accept d lowered).mapError Refusal.rejected = .ok statements at h
  cases haccept : accept d lowered with
  | error f =>
    rw [haccept] at h
    cases h
  | ok accepted =>
    rw [haccept] at h
    exact congrArg Except.ok (Except.ok.inj h)

lemma compileTemplate_eq (hs : IsStandard e)
    (hcompile : compile e.levels source e.known standard (some name) = .ok compiled)
    (haccept : accept standard (compiled.lowered.write standard) = .ok statements) :
    ∃ t, e.compileTemplate name source = .ok t ∧ t.tree = statements := by
  refine ⟨⟨compiled.lowered.write standard, statements, compiled.deferred,
    if compiled.deferred.isEmpty then none else some source⟩, ?_, rfl⟩
  unfold Engine.compileTemplate
  rw [hs.delimiters_eq, hcompile]
  dsimp only
  rw [haccept]
  rfl

/-- A page is compiled as it stands. -/
lemma exists_compileTemplate_inline (hs : IsStandard e) (p : Page) (name : Text) :
    ∃ t, e.compileTemplate name p.inline = .ok t ∧
      List.Forall₂ Construct.Means [p.loop p.content.opened] t.tree := by
  obtain ⟨compiled, hcompile, -, hwrite⟩ := p.compile_inline e.levels e.known (some name)
  obtain ⟨statements, haccept, hmeans⟩ := exists_accept_writeConstructs [p.loop p.content.opened]
  obtain ⟨t, ht, rfl⟩ := compileTemplate_eq hs hcompile (by rw [hwrite, haccept])
  exact ⟨t, ht, hmeans⟩

/-- A page is compiled with the tags of a known component around its content. -/
lemma exists_compileTemplate_hoisted (hs : IsStandard e) (p : Page) (hknown : b.text ∈ e.known) (name : Text) :
    ∃ t, e.compileTemplate name (p.hoisted b.text) = .ok t ∧
      List.Forall₂ Construct.Means (p.content.macros b ++ [p.loop [.value (p.content.call b)]]) t.tree := by
  obtain ⟨levels, hlevels⟩ := Nat.exists_eq_succ_of_ne_zero hs.levels_pos.ne'
  obtain ⟨compiled, hcompile, -, hwrite⟩ := p.compile_hoisted b levels (some name) hknown
  rw [← Nat.succ_eq_add_one, ← hlevels] at hcompile
  obtain ⟨statements, haccept, hmeans⟩ :=
    exists_accept_writeConstructs (p.content.macros b ++ [p.loop [.value (p.content.call b)]])
  obtain ⟨t, ht, rfl⟩ := compileTemplate_eq hs hcompile (by rw [hwrite, haccept])
  exact ⟨t, ht, hmeans⟩

/-! ### Boxes of an engine -/

/-- The variable that a box puts out. -/
def childrenVariable : Variable where
  text := childrenName
  isIdentifier := by decide
  isWord := show IsWord ('c' :: "hildren".toList) from
    .intro ⟨rfl, rfl, rfl, rfl⟩ (List.all_eq_true.mp (by decide))
  notMem_keywords := by decide
  not_isReserved := by decide

/-- The text that puts out the children. -/
def boxSource : Text := "\x7b\x7b children \x7d\x7d"

/-- A component is a box in an engine. -/
structure IsBox (e : Engine language) (sources : Table Text Text) (b : Box) : Prop where
  /-- Its template puts out the children. -/
  source_eq : sources.get? b.text = some boxSource
  /-- It is made of its children. -/
  exists_type : ∃ type, e.components.get? b.text = some type ∧ HasChildren type

lemma IsBox.mem_known (hb : IsBox e sources b) : b.text ∈ e.known := by
  obtain ⟨type, htype, -⟩ := hb.exists_type
  exact Table.mem_keys_iff.mpr ⟨type, htype⟩

/-- A box is transparent. -/
lemma IsBox.exists_registered (hb : IsBox e sources b) (hs : IsStandard e) (h : e.Settled sources) :
    ∃ r, e.registered.get? b.text = some r ∧ IsTransparent r := by
  obtain ⟨type, htype, hchildren⟩ := hb.exists_type
  obtain ⟨source, t, -, ht⟩ := h.exists_template (Table.mem_keys_iff.mpr ⟨type, htype⟩)
  refine ⟨⟨type, t⟩, Engine.get?_registered (Engine.registration?_eq_some_iff.mpr ⟨htype, ht⟩), hchildren, ?_⟩
  obtain ⟨known, -, hmakes⟩ := h.exists_makes _ _ t hb.source_eq ht
  obtain ⟨compiled, hcompiled, hlowered, -⟩ := hmakes.exists_compiled
  have hraw : Markup.IsRaw boxSource := Content.isRaw [.path ⟨childrenVariable, []⟩]
  obtain ⟨compiled', hcompiled', -, hwrite⟩ := compile_of_isRaw e.levels known (some b.text) hraw
  rw [hs.delimiters_eq] at hcompiled hlowered
  obtain rfl : compiled = compiled' := Except.ok.inj (hcompiled.symm.trans hcompiled')
  have haccept : accept standard (writeChunks [childrenChunk]) = .ok t.tree := by
    have hread := hmakes.read_eq
    rw [hs.delimiters_eq, hlowered, hwrite] at hread
    exact accept_of_read hread
  rw [accept_writeChunks (by decide)] at haccept
  exact (Except.ok.inj haccept).symm

/-- A component of a class of boxes is one when it is registered with the text for the children. -/
theorem isBox_of_register {c : ComponentClass} (hc : IsBoxClass c) (hname : c.name = b.text)
    (h : Engine.register c boxSource e = (.ok (), e')) : IsBox e' (sources.set c.name boxSource) b := by
  obtain ⟨type, templates, graph, htype, rfl⟩ := Engine.exists_componentType_of_register h
  rw [hname]
  exact ⟨Table.get?_set_self _ _ _, type, Table.get?_set_self _ _ _, hasChildren_of_isBoxClass hc htype⟩

/-- A box remains one when another component is registered. -/
lemma IsBox.of_registers (hb : IsBox e sources b) (hne : name ≠ b.text) (hstep : Registers e name source e') :
    IsBox e' (sources.set name source) b := by
  obtain ⟨type, htype, hchildren⟩ := hb.exists_type
  obtain ⟨type', hcomponents⟩ := hstep.exists_components
  refine ⟨?_, type, ?_, hchildren⟩
  · rw [Table.get?_set, if_neg hne, hb.source_eq]
  · rw [hcomponents, Table.get?_set, if_neg hne, htype]

/-! ### Pages of an engine -/

variable {S : Session language} {c : ComponentClass}

lemma meaningIn_given (home : Running (List Statement)) :
    meaningIn S.setting ⟨[], home.given⟩ = S.meaning home := by
  funext n
  unfold meaningIn Scene.value? Scene.global? Session.meaning Session.resolved
  cases home.given.get? n <;> rfl

/-- A page puts out its outcome, from what names mean for the component. -/
lemma putsOut_inline (hmeans : List.Forall₂ Construct.Means [p.loop p.content.opened] S.registration.template.tree) :
    S.PutsOut (p.outcome S.setting (S.meaning (S.runOf S.registration S.component))) := by
  rw [← meaningIn_given]
  exact fun _ => putsOut_startTemplate fun _ _ => p.putsOut_inline hmeans

/-- So does the page with the tags of a box around its content, unless a function replaces one that the box needs. -/
lemma putsOut_hoisted {r : Registration language} (hr : IsTransparent r) (hfound : S.engine.registered.get? b.text = some r)
    (hc : c.componentType = .ok S.registration.type)
    (hnot : ∀ fs ∈ S.functions, renderFunction ∉ fs.keys ∧ scopeFunction ∉ fs.keys)
    (hmeans : List.Forall₂ Construct.Means (p.content.macros b ++ [p.loop [.value (p.content.call b)]])
      S.registration.template.tree) :
    S.PutsOut (p.outcome S.setting (S.meaning (S.runOf S.registration S.component))) := by
  have hrender : S.meaning (S.runOf S.registration S.component) renderFunction = .callable .renderer := by
    rw [Session.meaning, Session.resolved_of_isReserved hc (by decide) (by decide) fun fs hfs => (hnot fs hfs).1,
      Session.get?_globals_renderFunction, Option.getD_some]
  have hscope : S.meaning (S.runOf S.registration S.component) scopeFunction = .callable .scopeMaker := by
    rw [Session.meaning, Session.resolved_of_isReserved hc (by decide) (by decide) fun fs hfs => (hnot fs hfs).2,
      Session.get?_globals_scopeFunction, Option.getD_some]
  rw [← meaningIn_given] at hrender hscope ⊢
  refine fun st => putsOut_startTemplate fun st' _ => ?_
  show st'.PutsOut (execTemplate _ (callWithin (L := language) _ _ (1998 + 2)) _ _) _
  exact p.putsOut_hoisted hr hfound hrender hscope hmeans

/-- What is found under a name that was registered. -/
lemma exists_lookUp (hstep : Registers e c.name source e') (type : ComponentType)
    (htype : e'.components.get? c.name = some type) {P : List Statement → Prop}
    (hcompile : ∃ t, e'.compileTemplate c.name source = .ok t ∧ P t.tree) :
    ∃ t, e'.lookUp c.name = .ok ⟨type, t⟩ ∧ P t.tree := by
  obtain ⟨t, ht, htemplate, -⟩ := hstep.own
  obtain ⟨t', ht', hP⟩ := hcompile
  obtain rfl : t = t' := Except.ok.inj (ht.symm.trans ht')
  have hfound : e'.registration? c.name = some ⟨type, t⟩ :=
    Engine.registration?_eq_some_iff.mpr ⟨htype, htemplate⟩
  refine ⟨t, ?_, hP⟩
  rw [Engine.lookUp, hfound]

/-- Where a page can be registered as it stands, it can be registered with its content between the tags of a box. -/
theorem register_hoisted {e₁ : Engine language} (hs : IsStandard e) (hb : IsBox e sources b) (p : Page)
    (hinline : Engine.register c p.inline e = (.ok (), e₁)) :
    ∃ e₂, Engine.register c (p.hoisted b.text) e = (.ok (), e₂) := by
  refine Engine.exists_register hinline fun type _ => ?_
  have hwith : IsStandard (Engine.withType type e) := ⟨hs.delimiters_eq, hs.levels_pos⟩
  have hknown : b.text ∈ (Engine.withType type e).known := Table.mem_keys_set.mpr (.inl hb.mem_known)
  obtain ⟨t, ht, -⟩ := exists_compileTemplate_hoisted hwith p hknown c.name
  exact ⟨t, ht⟩

/-- A page with its content between the tags of a box is rendered as the page that is registered as it stands: with the
same text, or with the same failure. -/
theorem render_hoisted {e₁ e₂ : Engine language} (h : Reachable e sources) (hs : IsStandard e) (hb : IsBox e sources b)
    (hne : c.name ≠ b.text) (p : Page) (hinline : Engine.register c p.inline e = (.ok (), e₁))
    (hhoisted : Engine.register c (p.hoisted b.text) e = (.ok (), e₂)) {component : Value}
    (hcomponent : component.typeName = c.name) (functions : Option (Table Text TemplateFunction))
    (hnot : ∀ fs ∈ functions, renderFunction ∉ fs.keys ∧ scopeFunction ∉ fs.keys) :
    (e₂.render component functions).result = (e₁.render component functions).result ∧
      ((e₁.render component functions).result = .ok () →
        (e₂.render component functions).written = (e₁.render component functions).written) := by
  have hsettled := Engine.settled_of_reachable h
  have hstep₁ := Engine.registers_of_register hsettled.consistent hsettled.not_mem_dependents_self hinline
  have hstep₂ := Engine.registers_of_register hsettled.consistent hsettled.not_mem_dependents_self hhoisted
  have hknown : b.text ∈ e₂.known := hstep₂.mem_known_iff.mpr (.inl hb.mem_known)
  have hcompile₁ := exists_compileTemplate_inline (hs.of_registers hstep₁) p c.name
  have hcompile₂ := exists_compileTemplate_hoisted (hs.of_registers hstep₂) p hknown c.name
  obtain ⟨r, hfound, hr⟩ := (hb.of_registers hne hstep₂).exists_registered (hs.of_registers hstep₂)
    (hsettled.of_registers hstep₂)
  -- both engines have the functions and the settings of the one before
  obtain ⟨type, templates₁, graph₁, htype, rfl⟩ := Engine.exists_componentType_of_register hinline
  obtain ⟨type', templates₂, graph₂, htype', rfl⟩ := Engine.exists_componentType_of_register hhoisted
  obtain rfl : type = type' := Except.ok.inj (htype.symm.trans htype')
  obtain ⟨t₁, hlookUp₁, hmeans₁⟩ := exists_lookUp hstep₁ type (Table.get?_set_self _ _ _) hcompile₁
  obtain ⟨t₂, hlookUp₂, hmeans₂⟩ := exists_lookUp hstep₂ type (Table.get?_set_self _ _ _) hcompile₂
  let S₁ : Session language := ⟨{ e with components := e.components.set c.name type, templates := templates₁, graph := graph₁ },
    ⟨type, t₁⟩, component, functions⟩
  let S₂ : Session language := ⟨{ e with components := e.components.set c.name type, templates := templates₂, graph := graph₂ },
    ⟨type, t₂⟩, component, functions⟩
  let out := p.outcome S₁.setting (S₁.meaning (S₁.runOf S₁.registration S₁.component))
  have hout₁ : S₁.PutsOut out := putsOut_inline hmeans₁
  have hout₂ : S₂.PutsOut out := putsOut_hoisted hr hfound htype hnot hmeans₂
  obtain ⟨hresult₁, hwritten₁⟩ := Session.render_of_putsOut ((congrArg _ hcomponent).trans hlookUp₁) hout₁
  obtain ⟨hresult₂, hwritten₂⟩ := Session.render_of_putsOut ((congrArg _ hcomponent).trans hlookUp₂) hout₂
  refine ⟨hresult₂.trans hresult₁.symm, fun hok => ?_⟩
  rw [hresult₁] at hok
  cases hended : ended component out with
  | error f =>
    rw [hended] at hok
    cases hok
  | ok t => exact (hwritten₂ t hended).trans (hwritten₁ t hended).symm

/-- Letters in boxes. -/
example : ((boxDeclaration "Box").toClass >>= fun w =>
    ClassDeclaration.toClass { name := "Page", fields := [{ name := "vs", type := some .text }] } >>= fun c =>
      (c.make [("vs", .text "a<")]).map fun page =>
        let e : Engine language := (Engine.register c "\x7b% for v in vs %\x7d[<Box>\x7b\x7b v \x7d\x7d</Box>]\x7b% endfor %\x7d"
          (Engine.register w boxSource {}).2).2
        (e.render page none).written) = .ok "[a][&lt;]" := by
  decide +kernel

end ComponentTags.Hoisting
