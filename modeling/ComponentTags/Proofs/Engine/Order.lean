/-
# The order of registrations

The templates of an engine depend on the texts they were last registered with and on nothing else: not on
the order of the registrations, nor on how often they were compiled in between
(`Settled.templates_eq`).  So components can be registered in any order (`registerAll_perm`), provided that
every registration succeeds.
-/
import ComponentTags.Proofs.Engine.Bookkeeping

namespace ComponentTags.Engine

variable {L : Language} {e e' : Engine L} {sources sources' : Table Text Text} {n : Text}

/-! ### What templates depend on -/

namespace Settled

/-- Engines that were given the same texts know the same names. -/
lemma mem_known_congr (h : e.Settled sources) (h' : e'.Settled sources')
    (hsources : ∀ n, sources.get? n = sources'.get? n) : n ∈ e.known ↔ n ∈ e'.known := by
  rw [← h.mem_keys_sources, ← h'.mem_keys_sources, Table.mem_keys_iff, Table.mem_keys_iff, hsources]

/-- Engines that were given the same texts have the same templates. -/
lemma templates_eq (h : e.Settled sources) (h' : e'.Settled sources')
    (hsources : ∀ n, sources.get? n = sources'.get? n) (hdelimiters : e'.delimiters = e.delimiters)
    (hlevels : e'.levels = e.levels) : e.templates.get? n = e'.templates.get? n := by
  have hknown (m : Text) : m ∈ e.known ↔ m ∈ e'.known := h.mem_known_congr h' hsources
  by_cases hn : n ∈ e.known
  · obtain ⟨source, t, hsource, ht⟩ := h.exists_template hn
    obtain ⟨source', t', hsource', ht'⟩ := h'.exists_template ((hknown n).mp hn)
    cases hsource.symm.trans ((hsources n).trans hsource')
    obtain ⟨old, hold, hmakes⟩ := h.exists_makes n source t hsource ht
    obtain ⟨old', hold', hmakes'⟩ := h'.exists_makes n source t' hsource' ht'
    -- neither template waits for a name that is known to one of the engines
    have hsame : t = t' := by
      refine hmakes.unique (hmakes'.congr hdelimiters.symm hlevels.symm)
        (fun m hm => h.isElementName_eq m (hold m hm))
        (fun m hm => h'.isElementName_eq m (hold' m hm)) ?_ ?_
      · intro m hm hmem
        rw [← h.pendingOf_eq n t ht] at hm
        exact h.not_mem_known n m hm ((hknown m).mpr (hold' m hmem))
      · intro m hm hmem
        rw [← h'.pendingOf_eq n t' ht'] at hm
        exact h'.not_mem_known n m hm ((hknown m).mp (hold m hmem))
    rw [ht, ht', hsame]
  · have hnone : e.templates.get? n = none := by
      rw [Table.get?_eq_none_iff, h.mem_templates]
      exact hn
    have hnone' : e'.templates.get? n = none := by
      rw [Table.get?_eq_none_iff, h'.mem_templates, ← hknown]
      exact hn
    rw [hnone, hnone']

/-- Engines with the same templates have templates that wait for the same names. -/
lemma pendingOf_congr (h : e.Settled sources) (h' : e'.Settled sources')
    (htemplate : e.templates.get? n = e'.templates.get? n) :
    e.graph.pendingOf n = e'.graph.pendingOf n := by
  cases ht : e.templates.get? n with
  | none =>
    have hn : n ∉ e.known := by
      rw [← h.mem_templates, ← Table.get?_eq_none_iff]
      exact ht
    have hn' : n ∉ e'.known := by
      rw [← h'.mem_templates, ← Table.get?_eq_none_iff, ← htemplate]
      exact ht
    rw [h.pendingOf_unknown n hn, h'.pendingOf_unknown n hn']
  | some t => rw [h.pendingOf_eq n t ht, h'.pendingOf_eq n t (htemplate ▸ ht)]

end Settled

/-! ### Several registrations -/

/-- Registers classes with their templates, each in turn. -/
def registerAll : List (ComponentClass × Text) → Update L Unit
  | [] => pure ()
  | (c, source) :: rest => do
    register c source
    registerAll rest

/-- The texts of several registrations by their names. -/
def textsOf (registrations : List (ComponentClass × Text)) : Table Text Text :=
  registrations.map fun r => (r.1.name, r.2)

variable {l l' : List (ComponentClass × Text)}

lemma keys_textsOf : (textsOf l).keys = l.map fun r => r.1.name := by
  rw [Table.keys, textsOf, List.map_map]
  rfl

/-- Registrations that succeed leave a settled engine, with their texts. -/
lemma Settled.of_registerAll (h : e.Settled sources) (hok : (registerAll l e).1 = .ok ()) :
    (registerAll l e).2.Settled (sources.setAll (textsOf l)) ∧
      (registerAll l e).2.delimiters = e.delimiters ∧ (registerAll l e).2.levels = e.levels := by
  induction l generalizing e sources with
  | nil => exact ⟨h, rfl, rfl⟩
  | cons r rest ih =>
    obtain ⟨c, source⟩ := r
    rw [registerAll, Update.bind_apply] at hok ⊢
    rcases hfirst : register c source e with ⟨f | _, e₁⟩
    · rw [hfirst] at hok
      cases hok
    · rw [hfirst] at hok
      have hstep : Registers e c.name source e₁ :=
        registers_of_register h.consistent h.not_mem_dependents_self hfirst
      obtain ⟨hrest, hdelimiters, hlevels⟩ := ih (h.of_registers hstep) hok
      exact ⟨hrest, hdelimiters.trans hstep.delimiters_eq, hlevels.trans hstep.levels_eq⟩

/-- The texts of registrations with distinct names do not depend on the order. -/
lemma get?_textsOf_perm (hperm : l.Perm l') (hdistinct : (l.map fun r => r.1.name).Nodup) :
    (Table.setAll [] (textsOf l)).get? n = (Table.setAll [] (textsOf l')).get? n := by
  have hnodup : (textsOf l).keys.Nodup := by rwa [keys_textsOf]
  have hnodup' : (textsOf l').keys.Nodup := by
    rw [keys_textsOf]
    exact (hperm.map _).nodup_iff.mp hdistinct
  rw [Table.get?_setAll hnodup, Table.get?_setAll hnodup', Table.get?, Option.or_none,
    Option.or_none]
  refine Option.ext fun source => ?_
  rw [← Table.mem_iff_get? hnodup, ← Table.mem_iff_get? hnodup']
  exact (hperm.map _).mem_iff

/-- The order of registrations does not matter: if several classes with distinct names are registered in
two orders on a fresh engine, and all registrations succeed, then every component has the same template,
and it waits for the same names. -/
theorem registerAll_perm (hperm : l.Perm l') (hdistinct : (l.map fun r => r.1.name).Nodup)
    (hfresh : e.IsFresh) (h : (registerAll l e).1 = .ok ()) (h' : (registerAll l' e).1 = .ok ()) :
    ∀ r ∈ l, ∃ t, (registerAll l e).2.templates.get? r.1.name = some t ∧
      (registerAll l' e).2.templates.get? r.1.name = some t ∧
      (registerAll l e).2.graph.pendingOf r.1.name =
        (registerAll l' e).2.graph.pendingOf r.1.name := by
  obtain ⟨hsettled, hdelimiters, hlevels⟩ := hfresh.settled.of_registerAll h
  obtain ⟨hsettled', hdelimiters', hlevels'⟩ := hfresh.settled.of_registerAll h'
  intro r hr
  have htemplate : (registerAll l e).2.templates.get? r.1.name =
      (registerAll l' e).2.templates.get? r.1.name :=
    hsettled.templates_eq hsettled' (fun n => get?_textsOf_perm hperm hdistinct)
      (hdelimiters'.trans hdelimiters.symm) (hlevels'.trans hlevels.symm)
  have hname : r.1.name ∈ (registerAll l e).2.known := by
    rw [← hsettled.mem_keys_sources, Table.mem_keys_setAll, keys_textsOf]
    exact .inr (List.mem_map_of_mem hr)
  obtain ⟨source, t, -, ht⟩ := hsettled.exists_template hname
  exact ⟨t, ht, htemplate ▸ ht, hsettled.pendingOf_congr hsettled' htemplate⟩

/-- An engine in which nothing has been registered. -/
def newEngine : Engine Template.language := {}

/-- A component is registered before or after the template that uses it. -/
theorem registerAll_perm_pair :
    (registerAll [(emptyRecord "Outer", "<Inner/>"), (emptyRecord "Inner", "<p></p>")] newEngine).1 =
        .ok () ∧
      (registerAll [(emptyRecord "Inner", "<p></p>"), (emptyRecord "Outer", "<Inner/>")] newEngine).1 =
        .ok () ∧
      ∀ r ∈ [(emptyRecord "Outer", ("<Inner/>" : Text)), (emptyRecord "Inner", "<p></p>")], ∃ t,
        (registerAll [(emptyRecord "Outer", "<Inner/>"), (emptyRecord "Inner", "<p></p>")]
          newEngine).2.templates.get? r.1.name = some t ∧
        (registerAll [(emptyRecord "Inner", "<p></p>"), (emptyRecord "Outer", "<Inner/>")]
          newEngine).2.templates.get? r.1.name = some t ∧
        (registerAll [(emptyRecord "Outer", "<Inner/>"), (emptyRecord "Inner", "<p></p>")]
          newEngine).2.graph.pendingOf r.1.name =
        (registerAll [(emptyRecord "Inner", "<p></p>"), (emptyRecord "Outer", "<Inner/>")]
          newEngine).2.graph.pendingOf r.1.name := by
  have h : (registerAll [(emptyRecord "Outer", "<Inner/>"), (emptyRecord "Inner", "<p></p>")]
      newEngine).1 = .ok () := by
    decide +kernel
  have h' : (registerAll [(emptyRecord "Inner", "<p></p>"), (emptyRecord "Outer", "<Inner/>")]
      newEngine).1 = .ok () := by
    decide +kernel
  exact ⟨h, h', registerAll_perm (.swap _ _ _) (by decide) ⟨rfl, rfl, rfl⟩ h h'⟩

end ComponentTags.Engine
