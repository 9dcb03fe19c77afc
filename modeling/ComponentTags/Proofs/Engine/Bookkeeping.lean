/-
# The books of an engine

Components, templates and the graph of an engine describe one situation, whatever was registered before
and whatever was refused (`orderly_of_reachable`).  In particular no template is out of date: compiling the
text that was registered last, with all components that are known by now, gives the template that is
there, although templates are only compiled again when a name arrives that they wait for.

A registration is all or nothing (`register_all_or_nothing`): what it has changed before it fails is undone.

What registrations preserve is that every template was compiled from its text with some of the known
names (`Settled`).  That these were enough follows from what the template waits for.
-/
import ComponentTags.Proofs.Engine.Makes
import ComponentTags.Proofs.Engine.Register
import ComponentTags.Template.Call

namespace ComponentTags.Engine

variable {L : Language}

/-! ### Reachable engines -/

/-- Nothing has been registered yet. -/
structure IsFresh (e : Engine L) : Prop where
  components_eq : e.components = []
  templates_eq : e.templates = []
  graph_eq : e.graph = {}

/-- The engines that registrations lead to, with the text that every name was last registered with. -/
inductive Reachable : Engine L → Table Text Text → Prop where
  /-- Nothing has been registered. -/
  | fresh {e : Engine L} (h : e.IsFresh) : Reachable e []
  /-- A registration has succeeded. -/
  | registered {e : Engine L} {sources : Table Text Text} {c : ComponentClass} {source : Text}
    (h : Reachable e sources) (hok : (register c source e).1 = .ok ()) :
    Reachable (register c source e).2 (sources.set c.name source)
  /-- A registration has failed. -/
  | refused {e : Engine L} {sources : Table Text Text} {c : ComponentClass} {source : Text}
    {f : Failure} (h : Reachable e sources) (herror : (register c source e).1 = .error f) :
    Reachable (register c source e).2 sources

/-! ### Settled engines -/

/-- Every template was compiled from its text with names that are still known, and waits for names that
are not. -/
structure Settled (e : Engine L) (sources : Table Text Text) : Prop where
  /-- No component has the name of an element. -/
  isElementName_eq : ∀ n ∈ e.known, Markup.isElementName n = false
  /-- Components and templates have the same names. -/
  keys_templates : e.templates.keys = e.known
  /-- Each of them was registered with a text. -/
  mem_keys_sources : ∀ n, n ∈ sources.keys ↔ n ∈ e.known
  /-- Templates were compiled with known names. -/
  exists_makes : ∀ n source t, sources.get? n = some source → e.templates.get? n = some t →
    ∃ known, (∀ m ∈ known, m ∈ e.known) ∧ e.Makes known n source t
  /-- The graph has the names that templates wait for. -/
  pendingOf_eq : ∀ n t, e.templates.get? n = some t → e.graph.pendingOf n = t.deferred
  /-- What is not registered does not wait. -/
  pendingOf_unknown : ∀ n ∉ e.known, e.graph.pendingOf n = []
  /-- Nothing waits for what is registered. -/
  not_mem_known : ∀ n, ∀ m ∈ e.graph.pendingOf n, m ∉ e.known
  /-- Both ends of the graph tell the same. -/
  consistent : e.graph.Consistent

variable {e e' : Engine L} {sources : Table Text Text} {name source : Text} {n m : Text}
  {t : CompiledTemplate L}

lemma IsFresh.settled (h : e.IsFresh) : e.Settled [] := by
  obtain ⟨hcomponents, htemplates, hgraph⟩ := h
  have hknown : e.known = [] := by
    rw [known, hcomponents]
    rfl
  refine ⟨by simp [hknown], by rw [hknown, htemplates]; rfl, by simp [hknown, Table.keys], ?_, ?_, ?_,
    ?_, ?_⟩
  · intro n source t hsource
    cases hsource
  · intro n t ht
    rw [htemplates] at ht
    cases ht
  · intro n _
    rw [hgraph]
    rfl
  · intro n m hm
    rw [hgraph] at hm
    cases hm
  · rw [hgraph]
    exact Graph.Consistent.empty

namespace Settled

lemma mem_templates (h : e.Settled sources) : n ∈ e.templates.keys ↔ n ∈ e.known := by
  rw [h.keys_templates]

/-- A registered component has a template and a text it was compiled from. -/
lemma exists_template (h : e.Settled sources) (hn : n ∈ e.known) :
    ∃ source t, sources.get? n = some source ∧ e.templates.get? n = some t := by
  obtain ⟨source, hsource⟩ := Table.mem_keys_iff.mp ((h.mem_keys_sources n).mpr hn)
  obtain ⟨t, ht⟩ := Table.mem_keys_iff.mp (h.mem_templates.mpr hn)
  exact ⟨source, t, hsource, ht⟩

/-- No template waits for its own name. -/
lemma not_mem_dependents_self (h : e.Settled sources) : n ∉ e.graph.dependents n := by
  rw [h.consistent.mem_dependents_iff]
  intro hn
  by_cases hknown : n ∈ e.known
  · exact h.not_mem_known n n hn hknown
  · rw [h.pendingOf_unknown n hknown] at hn
    cases hn

/-- A template that waits has its text at hand. -/
lemma source_of_mem_dependents (h : e.Settled sources) (hn : n ∈ e.graph.dependents name)
    (hsource : sources.get? n = some source) (ht : e.templates.get? n = some t) :
    t.source = some source := by
  rw [h.consistent.mem_dependents_iff, h.pendingOf_eq n t ht] at hn
  obtain ⟨known, -, hmakes⟩ := h.exists_makes n source t hsource ht
  rw [hmakes.source_eq, if_neg]
  intro hempty
  rw [List.isEmpty_iff.mp hempty] at hn
  cases hn

end Settled

lemma Registers.mem_known_iff (h : Registers e name source e') :
    m ∈ e'.known ↔ m ∈ e.known ∨ m = name := by
  obtain ⟨type, htype⟩ := h.exists_components
  rw [known, htype]
  exact Table.mem_keys_set

lemma Registers.mem_keys_sources (hstep : Registers e name source e') (h : e.Settled sources) :
    n ∈ (sources.set name source).keys ↔ n ∈ e'.known := by
  rw [Table.mem_keys_set, hstep.mem_known_iff, h.mem_keys_sources]

/-- A template is either new, compiled with all names from its last text, or it is an old one that did not
wait for the name. -/
lemma Registers.template_cases (hstep : Registers e name source e') (h : e.Settled sources)
    {last : Text} (hlast : (sources.set name source).get? n = some last)
    (ht : e'.templates.get? n = some t) :
    (e'.Makes e'.known n last t ∧ e'.graph.pendingOf n = t.deferred) ∨
      (sources.get? n = some last ∧ e.templates.get? n = some t ∧
        e'.graph.pendingOf n = e.graph.pendingOf n ∧ name ∉ e.graph.pendingOf n) := by
  rw [Table.get?_set] at hlast
  by_cases hname : n = name
  · subst hname
    rw [if_pos rfl] at hlast
    cases hlast
    obtain ⟨own, hown, htemplate, hpending⟩ := hstep.own
    cases htemplate.symm.trans ht
    have hmakes := makes_of_compileTemplate hown
    exact .inl ⟨hmakes, hpending.trans hmakes.eraseDups_deferred⟩
  · rw [if_neg (Ne.symm hname)] at hlast
    by_cases hn : n ∈ e.graph.dependents name
    · -- the text that was kept is the last one
      obtain ⟨waiting, again, hwaiting, hagain, htemplate, hpending⟩ := hstep.again n hn
      rw [h.source_of_mem_dependents hn hlast hwaiting] at hagain
      cases htemplate.symm.trans ht
      have hmakes := makes_of_compileTemplate hagain
      exact .inl ⟨hmakes, hpending.trans hmakes.eraseDups_deferred⟩
    · obtain ⟨htemplate, hpending⟩ := hstep.others n hn hname
      exact .inr ⟨hlast, htemplate ▸ ht, hpending, fun hmem =>
        hn (h.consistent.mem_dependents_iff.mpr hmem)⟩

/-- Every template has a text, and comes about in one of these ways. -/
lemma Registers.exists_template_cases (hstep : Registers e name source e') (h : e.Settled sources)
    (ht : e'.templates.get? n = some t) :
    ∃ last, (e'.Makes e'.known n last t ∧ e'.graph.pendingOf n = t.deferred) ∨
      (sources.get? n = some last ∧ e.templates.get? n = some t ∧
        e'.graph.pendingOf n = e.graph.pendingOf n ∧ name ∉ e.graph.pendingOf n) := by
  have hn : n ∈ e'.known := by
    have hkeys : e'.templates.keys = e'.known := hstep.keys_templates h.keys_templates
    rw [← hkeys]
    exact Table.mem_keys_iff.mpr ⟨t, ht⟩
  obtain ⟨last, hlast⟩ := Table.mem_keys_iff.mp ((hstep.mem_keys_sources h).mpr hn)
  exact ⟨last, hstep.template_cases h hlast ht⟩

lemma Registers.pendingOf_unknown (hstep : Registers e name source e') (h : e.Settled sources)
    (hn : n ∉ e'.known) : e'.graph.pendingOf n = [] := by
  rw [hstep.mem_known_iff, not_or] at hn
  have hpending : e.graph.pendingOf n = [] := h.pendingOf_unknown n hn.1
  have hdependent : n ∉ e.graph.dependents name := by
    rw [h.consistent.mem_dependents_iff, hpending]
    exact List.not_mem_nil
  exact (hstep.others n hdependent hn.2).2.trans hpending

/-- A registration keeps an engine settled. -/
lemma Settled.of_registers (h : e.Settled sources) (hstep : Registers e name source e') :
    e'.Settled (sources.set name source) := by
  have hkeys : e'.templates.keys = e'.known := hstep.keys_templates h.keys_templates
  refine ⟨?_, hkeys, fun n => hstep.mem_keys_sources h, ?_, ?_, fun n => hstep.pendingOf_unknown h, ?_,
    hstep.consistent⟩
  · intro n hn
    rcases hstep.mem_known_iff.mp hn with hn | rfl
    · exact h.isElementName_eq n hn
    · exact hstep.isElementName_eq
  · intro n last t hlast ht
    rcases hstep.template_cases h hlast ht with ⟨hmakes, -⟩ | ⟨hold, htemplate, -, -⟩
    · exact ⟨e'.known, fun m hm => hm, hmakes⟩
    · obtain ⟨known, hknown, hmakes⟩ := h.exists_makes n last t hold htemplate
      exact ⟨known, fun m hm => hstep.mem_known_iff.mpr (.inl (hknown m hm)),
        hmakes.congr hstep.delimiters_eq hstep.levels_eq⟩
  · intro n t ht
    obtain ⟨last, ⟨-, hpending⟩ | ⟨-, htemplate, hpending, -⟩⟩ := hstep.exists_template_cases h ht
    · exact hpending
    · exact hpending.trans (h.pendingOf_eq n t htemplate)
  · intro n m hm hknown
    by_cases hn : n ∈ e'.known
    · obtain ⟨t, ht⟩ := Table.mem_keys_iff.mp (hkeys ▸ hn)
      obtain ⟨last, ⟨hmakes, hpending⟩ | ⟨-, -, hpending, hname⟩⟩ := hstep.exists_template_cases h ht
      · rw [hpending] at hm
        exact hmakes.not_mem_of_mem_deferred hm hknown
      · -- an old template waits neither for old names nor for the new one
        rw [hpending] at hm
        rcases hstep.mem_known_iff.mp hknown with hold | rfl
        · exact h.not_mem_known n m hm hold
        · exact hname hm
    · rw [hstep.pendingOf_unknown h hn] at hm
      cases hm

/-- Registrations lead to settled engines. -/
lemma settled_of_reachable (h : Reachable e sources) : e.Settled sources := by
  induction h with
  | fresh h => exact h.settled
  | registered _ hok ih =>
    exact ih.of_registers (registers_of_register ih.consistent ih.not_mem_dependents_self
      (Prod.ext hok rfl))
  | @refused e sources c source f _ herror ih =>
    have hsame : (register c source e).2 = e := register_error (Prod.ext herror rfl)
    rw [hsame]
    exact ih

/-! ### All or nothing -/

/-- A registration either fails and leaves the engine as it was, or the component, its template and every
template that waited for it are compiled. -/
theorem register_all_or_nothing (h : Reachable e sources) (c : ComponentClass) (source : Text) :
    match register c source e with
    | (.error _, e') => e' = e
    | (.ok (), e') => Registers e c.name source e' := by
  have hsettled : e.Settled sources := settled_of_reachable h
  rcases hresult : register c source e with ⟨f | _, e'⟩
  · exact register_error hresult
  · exact registers_of_register hsettled.consistent hsettled.not_mem_dependents_self hresult

/-- The class of records that have a name and no fields. -/
def emptyRecord (name : Text) : ComponentClass := { name := name, isRecord := true }

/-- An engine in which a template waits for a component `Later`, to which it gives a value without
quotes. -/
def waitingEngine : Engine Template.language := (register (emptyRecord "Waiting") "<Later x=1/>" {}).2

lemma reachable_waitingEngine : Reachable waitingEngine [("Waiting", "<Later x=1/>")] :=
  Reachable.registered (.fresh ⟨rfl, rfl, rfl⟩) (by decide +kernel)

lemma register_later_error : (register (emptyRecord "Later") "<p></p>" waitingEngine).1 =
    .error (.library (.malformed
      ⟨.unquotedValue "x" "Later", 9, some "<Later x=1/>", some "Waiting"⟩)) := by
  decide +kernel

/-- A component cannot be registered when a template that waits for it cannot be compiled with it. -/
theorem register_all_or_nothing_waiting :
    Reachable waitingEngine [("Waiting", "<Later x=1/>")] ∧
      register (emptyRecord "Later") "<p></p>" waitingEngine =
        (.error (.library (.malformed
          ⟨.unquotedValue "x" "Later", 9, some "<Later x=1/>", some "Waiting"⟩)), waitingEngine) := by
  have hresult := register_later_error
  have hnothing := register_all_or_nothing reachable_waitingEngine (emptyRecord "Later") "<p></p>"
  rcases hregister : register (emptyRecord "Later") "<p></p>" waitingEngine with ⟨f | _, e'⟩
  · rw [hregister] at hresult hnothing
    exact ⟨reachable_waitingEngine, Prod.ext hresult hnothing⟩
  · rw [hregister] at hresult
    cases hresult

/-! ### Orderly engines -/

/-- Components, templates and the graph of an engine describe one situation, given the text that every
name was last registered with. -/
structure Orderly (e : Engine L) (sources : Table Text Text) : Prop where
  /-- Components and templates have the same names. -/
  keys_templates : e.templates.keys = e.known
  /-- These are the names that were registered. -/
  mem_keys_sources : ∀ n, n ∈ sources.keys ↔ n ∈ e.known
  /-- A template waits for its deferred names. -/
  pendingOf_eq : ∀ n t, e.templates.get? n = some t → e.graph.pendingOf n = t.deferred
  /-- It is found from the names it waits for, and nothing else is. -/
  mem_dependents_iff : ∀ n m, n ∈ e.graph.dependents m ↔ m ∈ e.graph.pendingOf n
  /-- None of these names is registered. -/
  not_mem_known : ∀ n t, e.templates.get? n = some t → ∀ m ∈ t.deferred, m ∉ e.known
  /-- The text of a template is kept as long as it waits for something. -/
  source_eq : ∀ n source t, sources.get? n = some source → e.templates.get? n = some t →
    t.source = if t.deferred = [] then none else some source
  /-- No template is out of date. -/
  compile_eq : ∀ n source t compiled, sources.get? n = some source → e.templates.get? n = some t →
    compile e.levels source e.known e.delimiters (some n) = .ok compiled →
    compiled.lowered.write e.delimiters = t.lowered ∧ compiled.deferred = t.deferred

lemma Settled.orderly (h : e.Settled sources) : e.Orderly sources := by
  have hdeferred : ∀ n t, e.templates.get? n = some t → ∀ m ∈ t.deferred, m ∉ e.known := by
    intro n t ht m hm
    rw [← h.pendingOf_eq n t ht] at hm
    exact h.not_mem_known n m hm
  refine ⟨h.keys_templates, h.mem_keys_sources, h.pendingOf_eq,
    fun n m => h.consistent.mem_dependents_iff, hdeferred, ?_, ?_⟩
  · intro n source t hsource ht
    obtain ⟨known, -, hmakes⟩ := h.exists_makes n source t hsource ht
    simpa using hmakes.source_eq
  · intro n source t compiled hsource ht hcompiled
    obtain ⟨known, hknown, hmakes⟩ := h.exists_makes n source t hsource ht
    obtain ⟨old, hold, hlowered, hnames⟩ := hmakes.exists_compiled
    -- neither the old nor the new result waits for a name that the other one was compiled with
    have hsame : compiled = old := by
      refine compile_eq_of_not_deferred hcompiled hold h.isElementName_eq
        (fun m hm => h.isElementName_eq m (hknown m hm)) ?_ ?_
      · intro m hm hmem
        exact Markup.not_mem_of_mem_deferred (parse_of_compile hcompiled).1 hm (hknown m hmem)
      · rw [← hnames]
        exact hdeferred n t ht
    rw [hsame, hlowered, hnames]
    exact ⟨rfl, rfl⟩

/-- Registrations lead to orderly engines, whether they succeed or fail. -/
theorem orderly_of_reachable (h : Reachable e sources) : e.Orderly sources :=
  (settled_of_reachable h).orderly

/-- An engine in which `Later` was refused, and a component was registered that uses `Waiting` and waits
for `Later`. -/
def pageEngine : Engine Template.language :=
  (register (emptyRecord "Page") "<Waiting/><Later/>"
    (register (emptyRecord "Later") "<p></p>" waitingEngine).2).2

/-- Books are in order after a registration that has failed and one that has not. -/
theorem orderly_of_reachable_page :
    Reachable pageEngine [("Waiting", "<Later x=1/>"), ("Page", "<Waiting/><Later/>")] ∧
      pageEngine.graph.dependents "Later" = ["Waiting", "Page"] ∧
      pageEngine.Orderly [("Waiting", "<Later x=1/>"), ("Page", "<Waiting/><Later/>")] := by
  have h : Reachable pageEngine [("Waiting", "<Later x=1/>"), ("Page", "<Waiting/><Later/>")] :=
    Reachable.registered (.refused reachable_waitingEngine register_later_error) (by decide +kernel)
  exact ⟨h, by decide +kernel, orderly_of_reachable h⟩

end ComponentTags.Engine
