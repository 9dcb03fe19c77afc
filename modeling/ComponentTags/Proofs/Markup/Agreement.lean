/-
# Templates that wait for nothing

What a template is parsed into depends on the known components only through the components that it
uses.  If two sets of known components both let a template be parsed, and the template waits in
neither case for a component of the other set, then it is parsed into the same nodes
(`parse_eq_of_not_deferred`).

The proof forgets the components that are in one of the sets only.  None of them is used, because the
other reading would have deferred it, and where no forgotten component is used nothing changes.
-/
import ComponentTags.Proofs.Markup.Projection

namespace ComponentTags.Markup

variable {s s' : Setting} {levels : Nat} {opened : Option Text} {p q : Progress}

/-- Uses of components that were read stay read. -/
lemma Steps.uses_subset (h : Steps s levels opened p q) : ∀ u ∈ p.uses, u ∈ q.uses := by
  have hforgets : s.Forgets s := ⟨fun _ hname => hname, rfl, rfl⟩
  obtain ⟨us, names, names', hfollows⟩ := h.exists_follows hforgets
  intro u hu
  rw [hfollows.adds.uses_eq]
  exact List.mem_append_left _ hu

/-- Only known components are used. -/
lemma Steps.tag_mem (h : Steps s levels opened p q) (hp : ∀ u ∈ p.uses, u.tag ∈ s.components) :
    ∀ u ∈ q.uses, u.tag ∈ s.components := by
  induction h with
  | refl => exact hp
  | pass _ _ ih => exact ih hp
  | literal _ _ _ ih => exact ih (by simpa using hp)
  | leaf _ h _ _ ih =>
    refine ih fun u hu => ?_
    simp only [Progress.uses_add, Node.uses_component, List.mem_append, List.mem_cons] at hu
    rcases hu with hu | rfl | hu
    · exact hp u hu
    · exact h.known
    · exact absurd hu (by simp)
  | component _ h _ _ _ _ ihc ih =>
    refine ih fun u hu => ?_
    simp only [Progress.uses_add, Node.uses_component, Progress.uses_content, List.mem_append,
      List.mem_cons] at hu
    rcases hu with hu | rfl | hu
    · exact hp u hu
    · exact h.known
    · exact ihc (by simp) u hu

/-- Where no forgotten component is used, a reading goes through unchanged. -/
lemma Steps.forget_unused (hs : s'.Forgets s) (h : Steps s levels opened p q)
    (hopened : ∀ name ∈ opened, name ∈ s'.components) (hq : ∀ u ∈ q.uses, u.tag ∈ s'.components) :
    Steps s' levels opened p q := by
  induction h with
  | refl => exact .refl
  | pass h _ ih => exact .pass (h.forget hs hopened) (ih hopened hq)
  | literal hrest h _ ih => exact .literal hrest (h.forget hs) (ih hopened hq)
  | @leaf _ _ p q _ name a hrest h hself next ih =>
    have hname : name ∈ s'.components := by
      refine hq ⟨name, a.entries, true, p.place⟩ (next.uses_subset _ ?_)
      simp
    exact .leaf hrest (h.keep hs hname) hself (ih hopened hq)
  | @component _ _ _ p q inner _ name a hrest h hself content hclose next ihc ih =>
    have hnode : ∀ u ∈ Node.uses [.component name a.entries inner.content false p.place],
        u.tag ∈ s'.components := by
      intro u hu
      refine hq u (next.uses_subset u ?_)
      simp only [Progress.uses_add, List.mem_append]
      exact .inr hu
    simp only [Node.uses_component, Progress.uses_content, List.forall_mem_cons] at hnode
    exact .component hrest (h.keep hs hnode.1) hself (ihc (by simpa using hnode.1) hnode.2)
      (hs.delimiters_eq ▸ hclose) (ih hopened hq)

/-! ### Whole templates -/

variable {text : Text} {components components' : List Text} {d : Delimiters}
  {name name' : Option Text} {parsed parsed' : Parsed}

/-- A template waits for every name once. -/
lemma eraseDups_deferred (h : parseWithin levels text components d name = .ok parsed) :
    parsed.deferred.eraseDups = parsed.deferred := by
  obtain ⟨q, -, -, rfl⟩ := parseWithin_eq_ok_iff.mp h
  exact eraseDups_eraseDups q.deferred

/-- A template does not wait for components that are known. -/
lemma not_mem_of_mem_deferred (h : parseWithin levels text components d name = .ok parsed) {n : Text}
    (hn : n ∈ parsed.deferred) : n ∉ components := by
  obtain ⟨q, hsteps, -, rfl⟩ := parseWithin_eq_ok_iff.mp h
  obtain ⟨q', -, -, -, hnames, -⟩ :=
    hsteps.exists_forget (settingFor_forgets text d fun _ hname => hname)
  rw [List.mem_eraseDups, hnames] at hn
  exact of_decide_eq_true (List.mem_filter.mp hn).2

/-- A template that uses no forgotten component is parsed into the same nodes without them. -/
lemma parse_forget_unused (hsub : ∀ n ∈ components', n ∈ components)
    (h : parseWithin levels text components d name = .ok parsed)
    (huses : ∀ u ∈ Node.uses parsed.nodes, u.tag ∈ components') :
    parseWithin levels text components' d name' = .ok parsed := by
  obtain ⟨q, hsteps, hrest, rfl⟩ := parseWithin_eq_ok_iff.mp h
  rw [Progress.uses_content] at huses
  have hsteps' := hsteps.forget_unused (settingFor_forgets text d hsub) (by simp) huses
  exact parseWithin_eq_ok_iff.mpr ⟨q, hsteps', hrest, rfl⟩

/-- A template only uses components that are known. -/
lemma tag_mem_of_parse (h : parseWithin levels text components d name = .ok parsed) :
    ∀ u ∈ Node.uses parsed.nodes, u.tag ∈ components := by
  obtain ⟨q, hsteps, -, rfl⟩ := parseWithin_eq_ok_iff.mp h
  rw [Progress.uses_content]
  exact hsteps.tag_mem (by simp)

/-- A template does not use a component that it would wait for if other components were known. -/
lemma tag_mem_of_not_deferred (h : parseWithin levels text components d name = .ok parsed)
    (h' : parseWithin levels text components' d name' = .ok parsed')
    (helement : ∀ n ∈ components, isElementName n = false)
    (hdeferred : ∀ n ∈ parsed'.deferred, n ∉ components) :
    ∀ u ∈ Node.uses parsed.nodes, u.tag ∈ components' := by
  intro u hu
  have hknown : u.tag ∈ components := tag_mem_of_parse h u hu
  obtain ⟨q, hsteps, hrest, rfl⟩ := parseWithin_eq_ok_iff.mp h
  obtain ⟨q', hsteps', hrest', rfl⟩ := parseWithin_eq_ok_iff.mp h'
  by_contra hunknown
  -- both readings are compared with the one in which only the common components are known
  let common := components.filter (· ∈ components')
  have hsub : ∀ n ∈ common, n ∈ components := fun n hn => (List.mem_filter.mp hn).1
  have hsub' : ∀ n ∈ common, n ∈ components' := by simp [common]
  obtain ⟨r, hr, hend, -, -, hforgotten⟩ := hsteps.exists_forget (settingFor_forgets text d hsub)
  obtain ⟨r', hr', hend', -, hnames, -⟩ := hsteps'.exists_forget (settingFor_forgets text d hsub')
  have hparse : parseWithin levels text common d name = .ok ⟨r.content, r.deferred.eraseDups⟩ :=
    parseWithin_eq_ok_iff.mpr ⟨r, hr, hend.trans hrest, rfl⟩
  have hparse' : parseWithin levels text common d name = .ok ⟨r'.content, r'.deferred.eraseDups⟩ :=
    parseWithin_eq_ok_iff.mpr ⟨r', hr', hend'.trans hrest', rfl⟩
  have heq : r.deferred.eraseDups = r'.deferred.eraseDups :=
    congrArg Parsed.deferred (Except.ok.inj (hparse.symm.trans hparse'))
  have hmem : u.tag ∈ r.deferred :=
    hforgotten u (q.uses_content ▸ hu) (fun hcommon => hunknown (hsub' _ hcommon))
      (helement _ hknown)
  have hmem' : u.tag ∈ r'.deferred := by
    rw [← List.mem_eraseDups, ← heq, List.mem_eraseDups]
    exact hmem
  have hwaits : u.tag ∈ q'.deferred := by
    rw [hnames]
    exact List.mem_filter.mpr ⟨hmem', decide_eq_true hunknown⟩
  exact hdeferred _ (List.mem_eraseDups.mpr hwaits) hknown

/-- A template that is parsed with two sets of known components, and waits in neither case for a
component of the other set, is parsed into the same nodes and waits for the same components. -/
theorem parse_eq_of_not_deferred (h : parseWithin levels text components d name = .ok parsed)
    (h' : parseWithin levels text components' d name' = .ok parsed')
    (helement : ∀ n ∈ components, isElementName n = false)
    (helement' : ∀ n ∈ components', isElementName n = false)
    (hdeferred : ∀ n ∈ parsed.deferred, n ∉ components')
    (hdeferred' : ∀ n ∈ parsed'.deferred, n ∉ components) : parsed = parsed' := by
  -- only components that are known in both cases are used, so the others can be forgotten
  let common := components.filter (· ∈ components')
  have hcommon : ∀ n, n ∈ common ↔ n ∈ components ∧ n ∈ components' := by simp [common]
  have huses : ∀ u ∈ Node.uses parsed.nodes, u.tag ∈ common := fun u hu =>
    (hcommon _).mpr ⟨tag_mem_of_parse h u hu, tag_mem_of_not_deferred h h' helement hdeferred' u hu⟩
  have huses' : ∀ u ∈ Node.uses parsed'.nodes, u.tag ∈ common := fun u hu =>
    (hcommon _).mpr ⟨tag_mem_of_not_deferred h' h helement' hdeferred u hu, tag_mem_of_parse h' u hu⟩
  have hparse : parseWithin levels text common d name = .ok parsed :=
    parse_forget_unused (fun n hn => ((hcommon n).mp hn).1) h huses
  have hparse' : parseWithin levels text common d name = .ok parsed' :=
    parse_forget_unused (fun n hn => ((hcommon n).mp hn).2) h' huses'
  exact Except.ok.inj (hparse.symm.trans hparse')

end ComponentTags.Markup
