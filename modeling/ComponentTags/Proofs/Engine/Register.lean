/-
# Registering components

A registration changes the components, compiles templates, and changes the templates and the graph
last.  One that fails leaves the engine as it was (`register_error`).  One that succeeds is described by
what it does to the entries of every name (`Registers`), so that nothing else has to look into it.
-/
import ComponentTags.Engine.Basic
import ComponentTags.Proofs.Resolution

namespace ComponentTags

/-- The type of a class has its name and knows the class. -/
lemma ComponentClass.of_componentType {c : ComponentClass} {type : ComponentType}
    (h : c.componentType = .ok type) : type.name = c.name ∧ type.cls = c := by
  unfold ComponentClass.componentType at h
  split at h
  · cases h
  · dsimp only at h
    split at h
    · cases h
    · split at h
      · cases h
      · cases h
        exact ⟨rfl, rfl⟩

/-! ### Updates -/

namespace Update

variable {L : Language} {α β : Type} {e e' : Engine L} {f : Failure} {v : β} {a : Update L α}
  {k : α → Update L β}

/-- An update that follows another one runs on the engine that the first one leaves. -/
lemma bind_apply (a : Update L α) (k : α → Update L β) : (a >>= k) e =
    match a e with
    | (.ok v, e') => k v e'
    | (.error f, e') => (.error f, e') := by
  rw [Graph.bind_apply]
  rcases a e with ⟨_ | v, e'⟩ <;> rfl

lemma bind_of_ok {u : α} (h : a e = (.ok u, e')) (k : α → Update L β) : (a >>= k) e = k u e' := by
  rw [bind_apply, h]

lemma bind_eq_ok (h : (a >>= k) e = (.ok v, e')) :
    ∃ u e₁, a e = (.ok u, e₁) ∧ k u e₁ = (.ok v, e') := by
  rw [bind_apply] at h
  rcases hfirst : a e with ⟨f | u, e₁⟩
  · rw [hfirst] at h
    cases h
  · rw [hfirst] at h
    exact ⟨u, e₁, rfl, h⟩

/-- If an update fails that follows another one, one of the two has failed. -/
lemma bind_eq_error (h : (a >>= k) e = (.error f, e')) :
    a e = (.error f, e') ∨ ∃ u e₁, a e = (.ok u, e₁) ∧ k u e₁ = (.error f, e') := by
  rw [bind_apply] at h
  rcases hfirst : a e with ⟨g | u, e₁⟩
  · rw [hfirst] at h
    cases h
    exact .inl rfl
  · rw [hfirst] at h
    exact .inr ⟨u, e₁, rfl, h⟩

lemma undoing_eq_ok {undo : Engine L → Engine L} {u : α} (h : a.undoing undo e = (.ok u, e')) :
    a e = (.ok u, e') := by
  unfold undoing at h
  rcases hresult : a e with ⟨f | w, e₁⟩
  · rw [hresult] at h
    cases h
  · rw [hresult] at h
    exact h

lemma undoing_eq_error {undo : Engine L → Engine L} (h : a.undoing undo e = (.error f, e')) :
    ∃ e₁, a e = (.error f, e₁) ∧ e' = undo e₁ := by
  unfold undoing at h
  rcases hresult : a e with ⟨g | w, e₁⟩
  · rw [hresult] at h
    cases h
    exact ⟨e₁, rfl, rfl⟩
  · rw [hresult] at h
    cases h

end Update

namespace Engine

open Update

variable {L : Language} {e e' : Engine L} {c : ComponentClass} {type : ComponentType}
  {name source : Text} {f : Failure}

/-! ### Failing registrations -/

/-- Putting back what a name stood for undoes that it stands for a type. -/
lemma withPrevious_withType :
    withPrevious type.name (e.components.get? type.name) (withType type e) = e := by
  unfold withPrevious withType
  cases hprevious : e.components.get? type.name with
  | none =>
    dsimp only
    rw [Table.erase_set_of_not_mem (Table.get?_eq_none_iff.mp hprevious)]
  | some previous =>
    dsimp only
    rw [Table.set_set_of_get? hprevious]

/-- While templates are compiled, nothing changes that a failure would have to undo. -/
lemma compileAll_error (h : compileAll name source e = (.error f, e')) : e' = e := by
  rw [compileAll] at h
  rcases bind_eq_error h with hget | ⟨_, _, hget, h⟩
  · cases hget
  cases hget
  rcases bind_eq_error h with hown | ⟨own, _, hown, h⟩
  · exact (Prod.mk.inj hown).2.symm
  obtain ⟨-, rfl⟩ := Prod.mk.inj hown
  rcases bind_eq_error h with hothers | ⟨results, _, hothers, h⟩
  · exact (Prod.mk.inj hothers).2.symm
  · -- the graph changes when nothing can fail any more
    cases h

lemma registerType_error (h : registerType type source e = (.error f, e')) : e' = e := by
  rw [registerType] at h
  rcases bind_eq_error h with hget | ⟨_, _, hget, h⟩
  · cases hget
  cases hget
  rcases bind_eq_error h with htype | ⟨_, _, htype, h⟩
  · cases htype
  cases htype
  rcases bind_eq_error h with hundone | ⟨results, _, -, h⟩
  · obtain ⟨e₁, hfailed, rfl⟩ := undoing_eq_error hundone
    rw [compileAll_error hfailed]
    exact withPrevious_withType
  · cases h

/-- A registration that fails leaves the engine as it was, whatever it fails for. -/
lemma register_error (h : register c source e = (.error f, e')) : e' = e := by
  rw [register] at h
  cases hname : nameProblem? c.name with
  | some p =>
    rw [hname] at h
    cases h
    rfl
  | none =>
    rw [hname] at h
    rcases bind_eq_error h with htype | ⟨type, _, htype, h⟩
    · exact (Prod.mk.inj htype).2.symm
    · obtain ⟨-, rfl⟩ := Prod.mk.inj htype
      exact registerType_error h

/-! ### Successful registrations -/

lemma run_recompile (kept : Table Text (CompiledTemplate L)) : (e.recompile name).run kept =
    match e.compileAgain name with
    | .error f => .error f
    | .ok t => .ok (t.deferred, kept.set name t) := by
  unfold recompile
  cases e.compileAgain name <;> rfl

/-- Compiles several templates again, each in turn. -/
def recompileAll (e : Engine L) (names : List Text) :
    StateT (Table Text (CompiledTemplate L)) (Except Failure) (Table Text (List Text)) :=
  names.mapM fun n => do return (n, ← e.recompile n)

/-- Compiling several templates again gives one template for each of them, which are kept. -/
lemma recompileAll_ok {names : List Text} {kept kept' : Table Text (CompiledTemplate L)}
    {results : Table Text (List Text)} (h : (e.recompileAll names).run kept = .ok (results, kept')) :
    ∃ compiled : Table Text (CompiledTemplate L), compiled.keys = names ∧
      (∀ entry ∈ compiled, e.compileAgain entry.1 = .ok entry.2) ∧
      results = compiled.map (fun entry => (entry.1, entry.2.deferred)) ∧
      kept' = kept.setAll compiled := by
  induction names generalizing kept results with
  | nil =>
    rw [recompileAll, List.mapM_nil] at h
    cases h
    exact ⟨[], rfl, by simp, rfl, rfl⟩
  | cons name names ih =>
    rw [recompileAll, List.mapM_cons, StateT.run_bind, StateT.run_bind, run_recompile,
      ← recompileAll] at h
    cases hname : e.compileAgain name with
    | error f =>
      rw [hname] at h
      cases h
    | ok t =>
      rw [hname] at h
      -- the others are compiled with the first template kept
      change ((e.recompileAll names).run (kept.set name t) >>= fun r =>
        .ok ((name, t.deferred) :: r.1, r.2)) = .ok (results, kept') at h
      cases hnames : (e.recompileAll names).run (kept.set name t) with
      | error f =>
        rw [hnames] at h
        cases h
      | ok rest =>
        rw [hnames] at h
        cases h
        obtain ⟨compiled, rfl, hcompiled, hresults, hkept⟩ := ih hnames
        refine ⟨(name, t) :: compiled, rfl, ?_, ?_, hkept⟩
        · rintro entry (_ | ⟨_, hentry⟩)
          · exact hname
          · exact hcompiled entry hentry
        · rw [hresults]
          rfl

/-- When a name arrives, the templates that wait for it are compiled again, and wait for what is left. -/
lemma resolve_ok {g graph : Graph} {others : Table Text (CompiledTemplate L)}
    (h : (g.resolve name e.recompile).run [] = .ok (graph, others)) :
    ∃ compiled : Table Text (CompiledTemplate L), compiled.keys = g.dependents name ∧
      (∀ entry ∈ compiled, e.compileAgain entry.1 = .ok entry.2) ∧
      graph = g.setAllPending (compiled.map fun entry => (entry.1, entry.2.deferred)) ∧
      others = Table.setAll [] compiled := by
  rw [Graph.resolve, StateT.run_bind] at h
  change ((e.recompileAll (g.dependents name)).run [] >>= fun r =>
    .ok (g.setAllPending r.1, r.2)) = .ok (graph, others) at h
  cases hall : (e.recompileAll (g.dependents name)).run [] with
  | error f =>
    rw [hall] at h
    cases h
  | ok all =>
    rw [hall] at h
    cases h
    obtain ⟨compiled, hkeys, hcompiled, hresults, hkept⟩ := recompileAll_ok hall
    exact ⟨compiled, hkeys, hcompiled, by rw [hresults], hkept⟩

/-- A template that is compiled again is one that was there. -/
lemma compileAgain_ok {t : CompiledTemplate L} (h : e.compileAgain name = .ok t) :
    ∃ waiting, e.templates.get? name = some waiting ∧
      e.compileTemplate name (waiting.source.getD []) = .ok t := by
  unfold compileAgain at h
  cases hwaiting : e.templates.get? name with
  | none =>
    rw [hwaiting] at h
    cases h
  | some waiting =>
    rw [hwaiting] at h
    exact ⟨waiting, rfl, h⟩

lemma compileAll_ok {compiled : CompiledTemplate L} {others : Table Text (CompiledTemplate L)}
    (h : compileAll name source e = (.ok (compiled, others), e')) :
    e.compileTemplate name source = .ok compiled ∧
      ∃ graph, (e.graph.resolve name e.recompile).run [] = .ok (graph, others) ∧
        e' = { e with graph := graph } := by
  rw [compileAll] at h
  obtain ⟨_, _, hget, h⟩ := bind_eq_ok h
  cases hget
  obtain ⟨own, _, hown, h⟩ := bind_eq_ok h
  obtain ⟨hcompiled, rfl⟩ := Prod.mk.inj hown
  obtain ⟨⟨graph, others'⟩, _, hothers, h⟩ := bind_eq_ok h
  obtain ⟨hresolved, rfl⟩ := Prod.mk.inj hothers
  cases h
  exact ⟨hcompiled, graph, hresolved, rfl⟩

lemma registerType_ok (h : registerType type source e = (.ok (), e')) :
    ∃ compiled others e₁,
      compileAll type.name source (withType type e) = (.ok (compiled, others), e₁) ∧
      e' = withTemplates type.name compiled others e₁ := by
  rw [registerType] at h
  obtain ⟨_, _, hget, h⟩ := bind_eq_ok h
  cases hget
  obtain ⟨_, _, htype, h⟩ := bind_eq_ok h
  cases htype
  obtain ⟨⟨compiled, others⟩, e₁, hcompiled, h⟩ := bind_eq_ok h
  cases h
  exact ⟨compiled, others, e₁, undoing_eq_ok hcompiled, rfl⟩

lemma register_ok (h : register c source e = (.ok (), e')) :
    ∃ type, nameProblem? c.name = none ∧ c.componentType = .ok type ∧
      registerType type source e = (.ok (), e') := by
  rw [register] at h
  cases hname : nameProblem? c.name with
  | some p =>
    rw [hname] at h
    cases h
  | none =>
    rw [hname] at h
    obtain ⟨type, _, hmade, h⟩ := bind_eq_ok h
    obtain ⟨htype, rfl⟩ := Prod.mk.inj hmade
    exact ⟨type, rfl, htype, h⟩

lemma isElementName_of_nameProblem? (h : nameProblem? name = none) :
    Markup.isElementName name = false := by
  unfold nameProblem? at h
  split at h
  · cases h
  · split at h
    · cases h
    · rename_i helement
      exact Bool.eq_false_iff.mpr helement

/-- What a registration has made of an engine, by the entries of every name. -/
structure Registers (e : Engine L) (name source : Text) (e' : Engine L) : Prop where
  delimiters_eq : e'.delimiters = e.delimiters
  levels_eq : e'.levels = e.levels
  /-- The name is no name of an element. -/
  isElementName_eq : Markup.isElementName name = false
  /-- The name is known. -/
  exists_components : ∃ type, e'.components = e.components.set name type
  /-- Components and templates have the same names if they had before. -/
  keys_templates : e.templates.keys = e.components.keys → e'.templates.keys = e'.components.keys
  /-- The name has a template for the text. -/
  own : ∃ t, e'.compileTemplate name source = .ok t ∧ e'.templates.get? name = some t ∧
    e'.graph.pendingOf name = t.deferred.eraseDups
  /-- Every template that waited for the name has been compiled again. -/
  again : ∀ n ∈ e.graph.dependents name, ∃ waiting t, e.templates.get? n = some waiting ∧
    e'.compileTemplate n (waiting.source.getD []) = .ok t ∧ e'.templates.get? n = some t ∧
    e'.graph.pendingOf n = t.deferred.eraseDups
  /-- All others are as they were. -/
  others : ∀ n ∉ e.graph.dependents name, n ≠ name →
    e'.templates.get? n = e.templates.get? n ∧ e'.graph.pendingOf n = e.graph.pendingOf n
  /-- The graph is kept consistent. -/
  consistent : e'.graph.Consistent

variable {own : CompiledTemplate L} {again : Table Text (CompiledTemplate L)} {n : Text}

lemma get?_withTemplates (hagain : again.keys.Nodup) :
    (withTemplates name own (Table.setAll [] again) e).templates.get? n =
      (again.get? n).or (if name = n then some own else e.templates.get? n) := by
  have hnodup : (Table.setAll [] again).keys.Nodup := Table.nodup_keys_setAll List.nodup_nil
  rw [withTemplates, Table.get?_setAll hnodup, Table.get?_setAll hagain, Table.get?_set, Table.get?,
    Option.or_none]

lemma keys_withTemplates (hagain : ∀ n ∈ again.keys, n ∈ e.templates.keys) :
    (withTemplates name own (Table.setAll [] again) e).templates.keys =
      (e.templates.set name own).keys := by
  refine Table.keys_setAll_of_subset fun n hn => ?_
  rw [Table.mem_keys_setAll] at hn
  rcases hn with hn | hn
  · exact absurd hn (List.not_mem_nil)
  · exact Table.mem_keys_set.mpr (.inl (hagain n hn))

lemma pendingOf_withTemplates {others : Table Text (CompiledTemplate L)} {g : Graph}
    (hagain : again.keys.Nodup)
    (hgraph : e.graph = g.setAllPending (again.map fun entry => (entry.1, entry.2.deferred))) :
    (withTemplates name own others e).graph.pendingOf n =
      if n = name then own.deferred.eraseDups
      else ((again.get? n).map fun t => t.deferred.eraseDups).getD (g.pendingOf n) := by
  rw [withTemplates, hgraph, Graph.pendingOf_setPending,
    Graph.pendingOf_setAllPending (by rwa [Table.keys_map]), Table.get?_map, Option.map_map]
  rfl

/-- A registration that succeeds, under a name that its own template does not wait for. -/
lemma registers_of_register (hgraph : e.graph.Consistent) (hself : c.name ∉ e.graph.dependents c.name)
    (h : register c source e = (.ok (), e')) : Registers e c.name source e' := by
  obtain ⟨type, hname, hmade, htype⟩ := register_ok h
  have hsame : type.name = c.name := (ComponentClass.of_componentType hmade).1
  obtain ⟨own, others, e₁, hall, rfl⟩ := registerType_ok htype
  rw [hsame] at hall ⊢
  obtain ⟨hown, graph, hresolve, rfl⟩ := compileAll_ok hall
  obtain ⟨again, hkeys, hagain, rfl, rfl⟩ := resolve_ok hresolve
  replace hkeys : again.keys = e.graph.dependents c.name := hkeys
  have hnodup : again.keys.Nodup := hkeys ▸ hgraph.nodup_dependents
  have hselfnone : again.get? c.name = none := by
    rw [Table.get?_eq_none_iff, hkeys]
    exact hself
  -- what is compiled again has a template already
  have hwaiting (n : Text) (hn : n ∈ again.keys) : ∃ waiting t, e.templates.get? n = some waiting ∧
      (withType type e).compileTemplate n (waiting.source.getD []) = .ok t ∧
      again.get? n = some t := by
    obtain ⟨t, ht⟩ := Table.mem_keys_iff.mp hn
    obtain ⟨waiting, hwaiting, hcompiled⟩ :=
      compileAgain_ok (hagain _ ((Table.mem_iff_get? hnodup).mpr ht))
    exact ⟨waiting, t, hwaiting, hcompiled, ht⟩
  refine ⟨rfl, rfl, isElementName_of_nameProblem? hname, ⟨type, ?_⟩, ?_, ?_, ?_, ?_, ?_⟩
  · rw [← hsame]
    rfl
  · intro hsamekeys
    refine (keys_withTemplates fun n hn => ?_).trans ?_
    · obtain ⟨waiting, t, hwaiting, -⟩ := hwaiting n hn
      exact Table.mem_keys_iff.mpr ⟨waiting, hwaiting⟩
    · rw [← hsame]
      exact Table.keys_set_congr hsamekeys
  · refine ⟨own, hown, ?_, ?_⟩
    · rw [get?_withTemplates hnodup, hselfnone, if_pos rfl, Option.none_or]
    · rw [pendingOf_withTemplates hnodup rfl, if_pos rfl]
  · intro n hn
    obtain ⟨waiting, t, hold, hcompiled, ht⟩ := hwaiting n (hkeys ▸ hn)
    have hne : n ≠ c.name := by
      rintro rfl
      exact hself hn
    refine ⟨waiting, t, hold, hcompiled, ?_, ?_⟩
    · rw [get?_withTemplates hnodup, ht, Option.some_or]
    · rw [pendingOf_withTemplates hnodup rfl, if_neg hne, ht]
      rfl
  · intro n hn hne
    have hnone : again.get? n = none := by
      rw [Table.get?_eq_none_iff, hkeys]
      exact hn
    refine ⟨?_, ?_⟩
    · rw [get?_withTemplates hnodup, hnone, if_neg (Ne.symm hne), Option.none_or]
      rfl
    · rw [pendingOf_withTemplates hnodup rfl, if_neg hne, hnone]
      rfl
  · exact hgraph.setAllPending.setPending

/-- A registration makes the type of its class known and keeps the settings of the engine. -/
lemma exists_componentType_of_register (h : register c source e = (.ok (), e')) :
    ∃ type templates graph, c.componentType = .ok type ∧ e' =
      { e with components := e.components.set c.name type, templates := templates, graph := graph } := by
  obtain ⟨type, -, hmade, hregistered⟩ := register_ok h
  obtain ⟨own, others, e₁, hall, rfl⟩ := registerType_ok hregistered
  obtain ⟨-, graph, -, rfl⟩ := compileAll_ok hall
  rw [← (ComponentClass.of_componentType hmade).1]
  exact ⟨type, _, _, hmade, rfl⟩

/-- Where a class is registered with one text, it is registered with any other text that can be compiled. -/
lemma exists_register {source' : Text} (h : register c source e = (.ok (), e'))
    (hcompile : ∀ type, c.componentType = .ok type →
      ∃ t, (withType type e).compileTemplate c.name source' = .ok t) :
    ∃ e'', register c source' e = (.ok (), e'') := by
  obtain ⟨type, hname, hmade, hregistered⟩ := register_ok h
  obtain ⟨own, others, e₁, hall, -⟩ := registerType_ok hregistered
  obtain ⟨-, graph, hresolve, -⟩ := compileAll_ok hall
  obtain ⟨t, ht⟩ := hcompile type hmade
  rw [← (ComponentClass.of_componentType hmade).1] at ht
  have hown : Update.of ((withType type e).compileTemplate type.name source') (withType type e) =
      (.ok t, withType type e) := by
    rw [ht]
    rfl
  have hothers : Update.of (((withType type e).graph.resolve type.name (withType type e).recompile).run [])
      (withType type e) = (.ok (graph, others), withType type e) := by
    rw [hresolve]
    rfl
  have hcompiled : compileAll type.name source' (withType type e) =
      (.ok (t, others), { withType type e with graph := graph }) :=
    (bind_of_ok rfl _).trans
      ((bind_of_ok hown _).trans ((bind_of_ok hothers _).trans rfl))
  have hundone : (compileAll type.name source').undoing (withPrevious type.name (e.components.get? type.name))
      (withType type e) = (.ok (t, others), { withType type e with graph := graph }) := by
    rw [undoing, hcompiled]
  have htype : Update.of c.componentType e = (.ok type, e) := by
    rw [hmade]
    rfl
  have hregister : registerType type source' e =
      (.ok (), withTemplates type.name t others { withType type e with graph := graph }) :=
    (bind_of_ok rfl _).trans ((bind_of_ok rfl _).trans
      ((bind_of_ok hundone _).trans rfl))
  refine ⟨withTemplates type.name t others { withType type e with graph := graph }, ?_⟩
  rw [register, hname]
  exact (bind_of_ok htype _).trans hregister

/-- What all types of components have in common stays so when the type of a new class has it too. -/
lemma forall_components_register {P : ComponentType → Prop}
    (h : ∀ n type, e.components.get? n = some type → P type)
    (hnew : ∀ type, c.componentType = .ok type → P type) :
    ∀ n type, (register c source e).2.components.get? n = some type → P type := by
  intro n type htype
  rcases hresult : register c source e with ⟨f | _, e'⟩
  · rw [hresult, register_error hresult] at htype
    exact h n type htype
  · obtain ⟨made, -, hmade, hregistered⟩ := register_ok hresult
    obtain ⟨own, others, e₁, hall, rfl⟩ := registerType_ok hregistered
    obtain ⟨-, graph, -, rfl⟩ := compileAll_ok hall
    rw [hresult] at htype
    replace htype : (e.components.set made.name made).get? n = some type := htype
    rw [Table.get?_set] at htype
    split_ifs at htype
    · cases htype
      exact hnew _ hmade
    · exact h n type htype

end Engine

end ComponentTags
