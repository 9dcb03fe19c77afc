/-
# What templates are made of

A template of an engine was compiled from a text when some names were known (`Makes`).  Which names these
were does not matter as long as they are enough: two templates that are made of one text, and wait for no
name that the other one was made with, are the same (`Makes.unique`).
-/
import ComponentTags.Engine.Basic
import ComponentTags.Proofs.Markup.Agreement

namespace ComponentTags

/-! ### Compiled texts -/

variable {levels : Nat} {source : Text} {known known' : List Text} {d : Delimiters} {name : Option Text}
  {compiled compiled' : Compiled}

lemma parse_of_compile (h : compile levels source known d name = .ok compiled) :
    Markup.parseWithin levels source known d name = .ok ⟨compiled.nodes, compiled.deferred⟩ ∧
      lower compiled.nodes d = .ok compiled.lowered := by
  unfold compile at h
  cases hparsed : Markup.parseWithin levels source known d name with
  | error fault =>
    rw [hparsed] at h
    cases h
  | ok parsed =>
    rw [hparsed] at h
    dsimp only at h
    cases hlowered : lower parsed.nodes d with
    | error fault =>
      rw [hlowered] at h
      cases h
    | ok lowered =>
      rw [hlowered] at h
      cases h
      exact ⟨rfl, hlowered⟩

/-- A text is compiled in the same way with two sets of known names if it waits in neither case for a name
of the other set. -/
lemma compile_eq_of_not_deferred (h : compile levels source known d name = .ok compiled)
    (h' : compile levels source known' d name = .ok compiled')
    (helement : ∀ n ∈ known, Markup.isElementName n = false)
    (helement' : ∀ n ∈ known', Markup.isElementName n = false)
    (hdeferred : ∀ n ∈ compiled.deferred, n ∉ known')
    (hdeferred' : ∀ n ∈ compiled'.deferred, n ∉ known) : compiled = compiled' := by
  obtain ⟨hparsed, hlowered⟩ := parse_of_compile h
  obtain ⟨hparsed', hlowered'⟩ := parse_of_compile h'
  have hsame : (⟨compiled.nodes, compiled.deferred⟩ : Markup.Parsed) =
      ⟨compiled'.nodes, compiled'.deferred⟩ :=
    Markup.parse_eq_of_not_deferred hparsed hparsed' helement helement' hdeferred hdeferred'
  obtain ⟨nodes, lowered, deferred⟩ := compiled
  obtain ⟨nodes', lowered', deferred'⟩ := compiled'
  cases hsame
  cases hlowered.symm.trans hlowered'
  rfl

namespace Engine

variable {L : Language} {e e' : Engine L} {name source : Text} {t t' : CompiledTemplate L}

/-! ### Templates -/

/-- How a template is compiled: it is what becomes of a text when some names are known. -/
structure Makes (e : Engine L) (known : List Text) (name source : Text) (t : CompiledTemplate L) :
    Prop where
  /-- The text is compiled into the lowered text and the names of the template. -/
  exists_compiled : ∃ compiled, compile e.levels source known e.delimiters (some name) = .ok compiled ∧
    t.lowered = compiled.lowered.write e.delimiters ∧ t.deferred = compiled.deferred
  /-- The language reads the lowered text as its tree. -/
  read_eq : L.read e.delimiters t.lowered = .ok t.tree
  /-- The text is kept if the template waits for something. -/
  source_eq : t.source = if t.deferred.isEmpty then none else some source

lemma makes_of_compileTemplate (h : e.compileTemplate name source = .ok t) :
    e.Makes e.known name source t := by
  unfold compileTemplate at h
  cases hcompiled : compile e.levels source e.known e.delimiters (some name) with
  | error fault =>
    rw [hcompiled] at h
    cases h
  | ok compiled =>
    rw [hcompiled] at h
    dsimp only at h
    cases hread : L.read e.delimiters (compiled.lowered.write e.delimiters) with
    | error refusal =>
      rw [hread] at h
      cases refusal <;> cases h
    | ok tree =>
      rw [hread] at h
      cases h
      exact ⟨⟨compiled, hcompiled, rfl, rfl⟩, hread, rfl⟩

namespace Makes

/-- How templates are compiled depends on the settings of an engine only. -/
lemma congr (h : e.Makes known name source t)
    (hdelimiters : e'.delimiters = e.delimiters) (hlevels : e'.levels = e.levels) :
    e'.Makes known name source t := by
  refine ⟨?_, ?_, h.source_eq⟩
  · rw [hdelimiters, hlevels]
    exact h.exists_compiled
  · rw [hdelimiters]
    exact h.read_eq

/-- A template waits for every name once. -/
lemma eraseDups_deferred (h : e.Makes known name source t) : t.deferred.eraseDups = t.deferred := by
  obtain ⟨compiled, hcompiled, -, hdeferred⟩ := h.exists_compiled
  rw [hdeferred]
  exact Markup.eraseDups_deferred (parse_of_compile hcompiled).1

/-- A template does not wait for names that it was made with. -/
lemma not_mem_of_mem_deferred (h : e.Makes known name source t) {n : Text} (hn : n ∈ t.deferred) :
    n ∉ known := by
  obtain ⟨compiled, hcompiled, -, hdeferred⟩ := h.exists_compiled
  rw [hdeferred] at hn
  exact Markup.not_mem_of_mem_deferred (parse_of_compile hcompiled).1 hn

/-- Two templates of one text are the same if neither waits for a name that the other was made with. -/
lemma unique (h : e.Makes known name source t) (h' : e.Makes known' name source t')
    (helement : ∀ n ∈ known, Markup.isElementName n = false)
    (helement' : ∀ n ∈ known', Markup.isElementName n = false)
    (hdeferred : ∀ n ∈ t.deferred, n ∉ known') (hdeferred' : ∀ n ∈ t'.deferred, n ∉ known) :
    t = t' := by
  obtain ⟨compiled, hcompiled, hlowered, hnames⟩ := h.exists_compiled
  obtain ⟨compiled', hcompiled', hlowered', hnames'⟩ := h'.exists_compiled
  rw [hnames] at hdeferred
  rw [hnames'] at hdeferred'
  have hsame : compiled = compiled' := compile_eq_of_not_deferred hcompiled hcompiled' helement
    helement' hdeferred hdeferred'
  have htree := h.read_eq
  have hsource := h.source_eq
  obtain ⟨lowered, tree, deferred, source⟩ := t
  obtain ⟨lowered', tree', deferred', source'⟩ := t'
  subst hsame
  dsimp only at hlowered hlowered' hnames hnames'
  subst hlowered hlowered' hnames hnames'
  cases htree.symm.trans h'.read_eq
  cases hsource.trans h'.source_eq.symm
  rfl

end Makes

end Engine

end ComponentTags
