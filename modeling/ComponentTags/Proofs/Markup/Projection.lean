/-
# Forgetting components

Parsing with fewer known components sees less: the components that are no longer known become raw
text, their content belongs to what is around them, and their closing tags are text.  Nothing else
changes.  The template is still parsed, the components that are still known are used at the same
places with the same attributes, and the names that are deferred are those from before and some of the
forgotten ones (`parseWithin_forget`).

The readings with many and with few known components are followed step by step.  They agree on the
place and on the text that is left, although one of them may be inside components that the other one
does not know.  A component that is known to both is entered by both, and one that is known to the
first reading only is entered by that reading alone.
-/
import ComponentTags.Proofs.Markup.Lenient
import ComponentTags.Proofs.Markup.Steps
import ComponentTags.Proofs.Names

namespace ComponentTags

/-! ### Uses of components -/

/-- A use of a component apart from its content. -/
structure Use where
  /-- The name of the component. -/
  tag : Text
  /-- The attributes. -/
  attributes : Table Text Text
  /-- Whether the tag closes itself. -/
  selfClosing : Bool
  /-- The place of the tag. -/
  offset : Int

namespace Node

/-- The use of a component that a node is. -/
def use? : Node → Option Use
  | raw _ => none
  | component tag attributes _ selfClosing offset => some ⟨tag, attributes, selfClosing, offset⟩

/-- The uses of components in some nodes and below, from the top downwards and from the front to the
back. -/
def uses (nodes : List Node) : List Use := (walk nodes).filterMap use?

@[simp] lemma uses_nil : uses [] = [] := rfl

@[simp] lemma uses_append (a b : List Node) : uses (a ++ b) = uses a ++ uses b := by
  simp [uses, walk_append]

@[simp] lemma uses_raw (content : Text) : uses [raw content] = [] := by
  simp [uses, walk, withDescendants, use?]

@[simp] lemma uses_component (tag : Text) (attributes : Table Text Text) (children : List Node)
    (selfClosing : Bool) (offset : Int) :
    uses [component tag attributes children selfClosing offset] =
      ⟨tag, attributes, selfClosing, offset⟩ :: uses children := by
  simp [uses, walk, withDescendants, use?]

end Node

namespace Markup

namespace Progress

/-- The uses of components in what has been read. -/
def uses (p : Progress) : List Use := Node.uses p.nodes.reverse

@[simp] lemma uses_start (place : Nat) (rest : Text) : (start place rest).uses = [] := rfl

@[simp] lemma uses_pass (p : Progress) (n : Nat) : (p.pass n).uses = p.uses := rfl

lemma uses_content (p : Progress) : Node.uses p.content = p.uses := by
  simp only [content, flush]
  split <;> simp [uses]

@[simp] lemma uses_add (p : Progress) (n : Nat) (node : Node) (names : List Text) :
    (p.add n node names).uses = p.uses ++ Node.uses [node] := by
  have hcontent := p.uses_content
  rw [content] at hcontent
  simp [uses, add, hcontent]

/-- From `p` to `q` some uses of components and some deferred names are added. -/
structure Adds (p q : Progress) (us : List Use) (names : List Text) : Prop where
  uses_eq : q.uses = p.uses ++ us
  deferred_eq : q.deferred = p.deferred ++ names

lemma Adds.refl (p : Progress) : Adds p p [] [] := ⟨by simp, by simp⟩

lemma Adds.trans {p q r : Progress} {us vs : List Use} {names more : List Text}
    (h : Adds p q us names) (h' : Adds q r vs more) : Adds p r (us ++ vs) (names ++ more) :=
  ⟨by rw [h'.uses_eq, h.uses_eq, List.append_assoc],
    by rw [h'.deferred_eq, h.deferred_eq, List.append_assoc]⟩

lemma adds_pass (p : Progress) (n : Nat) : Adds p (p.pass n) [] [] := ⟨by simp, by simp [pass]⟩

lemma adds_add (p : Progress) (n : Nat) (node : Node) (names : List Text) :
    Adds p (p.add n node names) (Node.uses [node]) names := ⟨by simp, rfl⟩

/-- A component adds its own use, and what its content adds. -/
lemma adds_component {place : Nat} {rest : Text} {inner : Progress} {us : List Use}
    {names : List Text} (h : Adds (start place rest) inner us names) (p : Progress) (n : Nat)
    (name : Text) (entries : Table Text Text) :
    Adds p (p.add n (.component name entries inner.content false p.place) inner.deferred)
      (⟨name, entries, false, p.place⟩ :: us) names := by
  have hadds := adds_add p n (.component name entries inner.content false p.place) inner.deferred
  have hdeferred : inner.deferred = names := h.deferred_eq
  rw [Node.uses_component, uses_content, h.uses_eq, uses_start, List.nil_append] at hadds
  rw [hdeferred] at hadds ⊢
  exact hadds

/-- Two readings have come to the same place of a text. -/
def SamePlace (p q : Progress) : Prop := p.place = q.place ∧ p.rest = q.rest

end Progress

open Progress

/-! ### Following a reading that knows more components -/

/-- A setting that differs from another one only in that fewer components are known. -/
structure Setting.Forgets (s' s : Setting) : Prop where
  components : ∀ name ∈ s'.components, name ∈ s.components
  delimiters_eq : s'.delimiters = s.delimiters
  lowered_eq : s'.lowered = s.lowered

/-- The reading from `p` to `q` in the setting `s`, which adds `us` and `names`, can be followed in the
setting `s'` from every place inside components that are known there: the uses of components that are
known in both settings are added, and `names'` instead of `names`. -/
structure Follows (s s' : Setting) (levels : Nat) (p q : Progress) (us : List Use)
    (names names' : List Text) : Prop where
  adds : Adds p q us names
  names_eq : names = names'.filter (· ∉ s.components)
  forgotten : ∀ u ∈ us, u.tag ∉ s'.components → isElementName u.tag = false → u.tag ∈ names'
  steps : ∀ levels' opened', levels ≤ levels' → (∀ name ∈ opened', name ∈ s'.components) →
    ∀ p', SamePlace p' p → ∃ q', SamePlace q' q ∧ Steps s' levels' opened' p' q' ∧
      Adds p' q' (us.filter (·.tag ∈ s'.components)) names'

namespace Follows

variable {s s' : Setting} {levels : Nat} {p q r : Progress}

lemma refl : Follows s s' levels p p [] [] [] where
  adds := .refl p
  names_eq := rfl
  forgotten := by simp
  steps _ _ _ _ p' hp := ⟨p', hp, .refl, .refl p'⟩

lemma trans {us vs : List Use} {names names' more more' : List Text}
    (h : Follows s s' levels p q us names names') (h' : Follows s s' levels q r vs more more') :
    Follows s s' levels p r (us ++ vs) (names ++ more) (names' ++ more') where
  adds := h.adds.trans h'.adds
  names_eq := by rw [h.names_eq, h'.names_eq, List.filter_append]
  forgotten := by
    intro u hu hforgotten helement
    rcases List.mem_append.mp hu with hu | hu
    · exact List.mem_append_left _ (h.forgotten u hu hforgotten helement)
    · exact List.mem_append_right _ (h'.forgotten u hu hforgotten helement)
  steps := by
    intro levels' opened' hlevels hopened p' hp
    obtain ⟨q', hq, hsteps, hadds⟩ := h.steps levels' opened' hlevels hopened p' hp
    obtain ⟨r', hr, hsteps', hadds'⟩ := h'.steps levels' opened' hlevels hopened q' hq
    exact ⟨r', hr, hsteps.trans hsteps', by rw [List.filter_append]; exact hadds.trans hadds'⟩

end Follows

variable {s s' : Setting} {levels : Nat} {p q : Progress}

/-- Markup that is passed with more known components is passed with fewer of them, since the closing
tags of forgotten components are passed as well. -/
lemma Passes.forget {opened opened' : Option Text} {text : Text} {n : Nat} (hs : s'.Forgets s)
    (hopened : ∀ name ∈ opened', name ∈ s'.components) (h : Passes s opened text n) :
    Passes s' opened' text n := by
  cases h with
  | span hkind hlength =>
    exact .span (hs.delimiters_eq ▸ hkind) (hs.delimiters_eq ▸ hlength)
  | character hspan hc => exact .character (hs.delimiters_eq ▸ hspan) hc
  | @closing rest name n hspan hclosing _ hunknown =>
    have hunknown' : name ∉ s'.components := fun hname => hunknown (hs.components name hname)
    exact .closing (hs.delimiters_eq ▸ hspan) hclosing (fun heq => hunknown' (hopened name heq))
      hunknown'
  | declaration hspan hslash hletter hlength =>
    exact .declaration (hs.delimiters_eq ▸ hspan) hslash hletter hlength

/-- The closing tag of a forgotten component is passed. -/
lemma Closes.forget {opened' : Option Text} {name text : Text} {n : Nat} (hs : s'.Forgets s)
    (hname : name ∉ s'.components) (hopened : ∀ name ∈ opened', name ∈ s'.components)
    (h : Closes s.delimiters name text n) : Passes s' opened' text n := by
  cases h with
  | intro hspan hclosing =>
    exact .closing (hs.delimiters_eq ▸ hspan) hclosing (fun heq => hname (hopened name heq)) hname

lemma Literal.forget {place n : Nat} {rest : Text} {names : List Text} (hs : s'.Forgets s)
    (h : Literal s place rest n names) : Literal s' place rest n names := by
  have hraw : ∀ tag place rest, rawTextLength s tag place rest = rawTextLength s' tag place rest := by
    intro tag place rest
    simp only [rawTextLength, hs.lowered_eq]
  cases h with
  | element htag hname =>
    rw [hraw]
    exact .element (hs.delimiters_eq ▸ htag) hname
  | unknown htag hname hunknown =>
    exact .unknown (hs.delimiters_eq ▸ htag) hname fun hname => hunknown (hs.components _ hname)

/-- Only names that are unknown are deferred. -/
lemma Literal.filter_names {place n : Nat} {rest : Text} {names : List Text}
    (h : Literal s place rest n names) : names = names.filter (· ∉ s.components) := by
  cases h with
  | element _ _ => rfl
  | unknown _ _ hunknown =>
    split
    · rfl
    · simp [hunknown]

lemma OpensComponent.keep {rest name : Text} {a : Attributes} (hs : s'.Forgets s)
    (h : OpensComponent s rest name a) (hname : name ∈ s'.components) :
    OpensComponent s' rest name a :=
  ⟨hs.delimiters_eq ▸ h.tag, h.name_capital, hname⟩

/-- The names that the tag of a forgotten component defers. -/
def forgottenNames (name : Text) : List Text := if isElementName name then [] else [name]

/-- The tag of a component that is forgotten is read leniently and stays raw text. -/
lemma OpensComponent.forget {place : Nat} {rest name : Text} {a : Attributes} (hs : s'.Forgets s)
    (h : OpensComponent s rest name a) (hname : name ∉ s'.components) :
    Literal s' place rest (tagLength name a) (forgottenNames name) :=
  .unknown (hs.delimiters_eq ▸ ⟨h.tag.no_span, h.tag.letter, h.tag.name_eq,
    attributes_lenient h.tag.attributes_eq⟩) h.name_capital hname

lemma filter_forgottenNames {name : Text} (hname : name ∈ s.components) :
    (forgottenNames name).filter (· ∉ s.components) = [] := by
  unfold forgottenNames
  split <;> simp [hname]

lemma follows_pass {opened : Option Text} {n : Nat} (hs : s'.Forgets s)
    (h : Passes s opened p.rest n) : Follows s s' levels p (p.pass n) [] [] [] where
  adds := adds_pass p n
  names_eq := rfl
  forgotten := by simp
  steps := by
    rintro levels' opened' - hopened p' ⟨hplace, hrest⟩
    have hpass : Passes s' opened' p'.rest n := hrest ▸ h.forget hs hopened
    refine ⟨p'.pass n, ⟨?_, ?_⟩, .pass hpass .refl, adds_pass p' n⟩
    · simp [Progress.pass, hplace]
    · simp [Progress.pass, hrest]

lemma follows_literal {n : Nat} {rest : Text} {names : List Text} (hs : s'.Forgets s)
    (hrest : p.rest = '<' :: rest) (h : Literal s p.place rest n names) :
    Follows s s' levels p (p.add n (.raw (p.rest.take n)) names) [] names names where
  adds := by simpa using adds_add p n (.raw (p.rest.take n)) names
  names_eq := h.filter_names
  forgotten := by simp
  steps := by
    rintro levels' opened' - - p' ⟨hplace, hrest'⟩
    have hliteral : Literal s' p'.place rest n names := hplace ▸ h.forget hs
    refine ⟨_, ⟨?_, ?_⟩, .literal (hrest'.trans hrest) hliteral .refl, ?_⟩
    · simp [add, hplace]
    · simp [add, hrest']
    · simpa using adds_add p' n (.raw (p'.rest.take n)) names

lemma follows_leaf {rest name : Text} {a : Attributes} (hs : s'.Forgets s)
    (hrest : p.rest = '<' :: rest) (h : OpensComponent s rest name a) (hself : a.selfClosing = true) :
    Follows s s' levels p (p.add (tagLength name a) (.component name a.entries [] true p.place) [])
      [⟨name, a.entries, true, p.place⟩] []
      (if name ∈ s'.components then [] else forgottenNames name) where
  adds := by simpa using adds_add p (tagLength name a) (.component name a.entries [] true p.place) []
  names_eq := by
    split
    · rfl
    · exact (filter_forgottenNames h.known).symm
  forgotten := by
    intro u hu hforgotten helement
    obtain rfl := List.mem_singleton.mp hu
    simp [hforgotten, forgottenNames, helement]
  steps := by
    rintro levels' opened' - - p' ⟨hplace, hrest'⟩
    by_cases hname : name ∈ s'.components
    · refine ⟨_, ⟨?_, ?_⟩, .leaf (hrest'.trans hrest) (h.keep hs hname) hself .refl, ?_⟩
      · simp [add, hplace]
      · simp [add, hrest']
      · simpa [hname, hplace] using
          adds_add p' (tagLength name a) (.component name a.entries [] true p'.place) []
    · refine ⟨_, ⟨?_, ?_⟩, .literal (hrest'.trans hrest) (h.forget hs hname) .refl, ?_⟩
      · simp [add, hplace]
      · simp [add, hrest']
      · simpa [hname] using
          adds_add p' (tagLength name a) (.raw (p'.rest.take (tagLength name a))) (forgottenNames name)

/-- A component with content: either both readings enter it, or its tags are passed by the second
reading and its content is read as a part of what is around it. -/
lemma follows_component {n : Nat} {inner : Progress} {rest name : Text} {a : Attributes}
    {us : List Use} {names names' : List Text} (hs : s'.Forgets s) (hrest : p.rest = '<' :: rest)
    (h : OpensComponent s rest name a) (hself : a.selfClosing = false)
    (content : Steps s levels (some name)
      (.start (p.place + tagLength name a) (p.rest.drop (tagLength name a))) inner)
    (hcontent : Follows s s' levels
      (.start (p.place + tagLength name a) (p.rest.drop (tagLength name a))) inner us names names')
    (hclose : Closes s.delimiters name inner.rest n) :
    Follows s s' (levels + 1) p
      (p.add (inner.place + n - p.place) (.component name a.entries inner.content false p.place)
        inner.deferred)
      (⟨name, a.entries, false, p.place⟩ :: us) names
      ((if name ∈ s'.components then [] else forgottenNames name) ++ names') where
  adds := adds_component hcontent.adds p _ name a.entries
  names_eq := by
    rw [List.filter_append, ← hcontent.names_eq]
    split
    · rfl
    · rw [filter_forgottenNames h.known, List.nil_append]
  forgotten := by
    intro u hu hforgotten helement
    -- the component itself is deferred by its tag, what it contains by what is read there
    rcases List.mem_cons.mp hu with rfl | hu
    · simp [hforgotten, forgottenNames, helement]
    · exact List.mem_append_right _ (hcontent.forgotten u hu hforgotten helement)
  steps := by
    rintro levels' opened' hlevels hopened p' ⟨hplace, hrest'⟩
    obtain ⟨hle, hinner⟩ := content.rest_eq
    simp only [start] at hle hinner
    have hend : inner.rest.drop n = p.rest.drop (inner.place + n - p.place) := by
      rw [hinner, List.drop_drop, List.drop_drop]
      congr 1
      omega
    by_cases hname : name ∈ s'.components
    · -- the second reading enters the component too, one level further down than before
      obtain ⟨k, rfl⟩ : ∃ k, levels' = k + 1 := ⟨levels' - 1, by omega⟩
      obtain ⟨inner', ⟨hplace', hsame⟩, hsteps, hadds⟩ := hcontent.steps k (some name) (by omega)
        (by simpa using hname) (.start (p'.place + tagLength name a) (p'.rest.drop (tagLength name a)))
        ⟨by simp [start, hplace], by simp [start, hrest']⟩
      have hclose' : Closes s'.delimiters name inner'.rest n := by
        rw [hsame, hs.delimiters_eq]
        exact hclose
      refine ⟨_, ⟨?_, ?_⟩,
        .component (hrest'.trans hrest) (h.keep hs hname) hself hsteps hclose' .refl, ?_⟩
      · simp [add, hplace, hplace']
      · simp [add, hplace, hplace', hrest']
      · simpa [hname, hplace] using
          adds_component hadds p' (inner'.place + n - p'.place) name a.entries
    · -- the opening tag and the closing tag are both text to the second reading
      obtain ⟨q', ⟨hplace', hsame⟩, hsteps, hadds⟩ := hcontent.steps levels' opened' (by omega) hopened
        (p'.add (tagLength name a) (.raw (p'.rest.take (tagLength name a))) (forgottenNames name))
        ⟨by simp [start, add, hplace], by simp [start, add, hrest']⟩
      have hpass : Passes s' opened' q'.rest n := by
        rw [hsame]
        exact hclose.forget hs hname hopened
      refine ⟨q'.pass n, ⟨?_, ?_⟩, .literal (hrest'.trans hrest) (h.forget hs hname)
        (hsteps.trans (.pass hpass .refl)), ?_⟩
      · simp only [Progress.pass, Progress.add, hplace']
        omega
      · simp only [Progress.pass, Progress.add, hsame, hend]
      · have hnode := (adds_add p' (tagLength name a) (.raw (p'.rest.take (tagLength name a)))
          (forgottenNames name)).trans (hadds.trans (adds_pass q' n))
        simpa [hname] using hnode

/-- A reading can be followed wherever fewer components are known. -/
lemma Steps.exists_follows {opened : Option Text} (hs : s'.Forgets s)
    (h : Steps s levels opened p q) :
    ∃ us names names', Follows s s' levels p q us names names' := by
  induction h with
  | refl => exact ⟨_, _, _, .refl⟩
  | pass h _ ih =>
    obtain ⟨us, names, names', hnext⟩ := ih
    exact ⟨_, _, _, (follows_pass hs h).trans hnext⟩
  | literal hrest h _ ih =>
    obtain ⟨us, names, names', hnext⟩ := ih
    exact ⟨_, _, _, (follows_literal hs hrest h).trans hnext⟩
  | leaf hrest h hself _ ih =>
    obtain ⟨us, names, names', hnext⟩ := ih
    exact ⟨_, _, _, (follows_leaf hs hrest h hself).trans hnext⟩
  | component hrest h hself content hclose _ ihc ih =>
    obtain ⟨_, _, _, hcontent⟩ := ihc
    obtain ⟨us, names, names', hnext⟩ := ih
    exact ⟨_, _, _, (follows_component hs hrest h hself content hcontent hclose).trans hnext⟩

/-! ### Whole templates -/

lemma settingFor_forgets {components components' : List Text} (text : Text) (d : Delimiters)
    (hsub : ∀ name ∈ components', name ∈ components) :
    (settingFor text components' d).Forgets (settingFor text components d) :=
  ⟨hsub, rfl, rfl⟩

/-- The whole of a template can be read with fewer known components. -/
lemma Steps.exists_forget {text : Text} (hs : s'.Forgets s)
    (h : Steps s levels none (.start 0 text) q) :
    ∃ q', Steps s' levels none (.start 0 text) q' ∧ q'.rest = q.rest ∧
      q'.uses = q.uses.filter (·.tag ∈ s'.components) ∧
      q.deferred = q'.deferred.filter (· ∉ s.components) ∧
      ∀ u ∈ q.uses, u.tag ∉ s'.components → isElementName u.tag = false → u.tag ∈ q'.deferred := by
  obtain ⟨us, names, names', hfollows⟩ := h.exists_follows hs
  obtain ⟨q', hplace, hsteps, hadds⟩ := hfollows.steps levels none (Nat.le_refl _) (by simp) (.start 0 text)
    ⟨rfl, rfl⟩
  have huses : q.uses = us := by simpa using hfollows.adds.uses_eq
  have hnames : q.deferred = names := hfollows.adds.deferred_eq
  have hnames' : q'.deferred = names' := hadds.deferred_eq
  refine ⟨q', hsteps, hplace.2, ?_, ?_, ?_⟩
  · rw [huses]
    simpa using hadds.uses_eq
  · rw [hnames, hnames']
    exact hfollows.names_eq
  · rw [huses, hnames']
    exact hfollows.forgotten

/-- A template that is parsed is also parsed when fewer components are known.  The names deferred then
are those from before and some that are no longer known, and the components that are still known are
used at the same places with the same attributes, in the same order. -/
theorem parseWithin_forget {text : Text} {components components' : List Text} {d : Delimiters}
    {name : Option Text} {parsed : Parsed} (hsub : ∀ n ∈ components', n ∈ components)
    (h : parseWithin levels text components d name = .ok parsed) :
    ∃ parsed', parseWithin levels text components' d name = .ok parsed' ∧
      parsed.deferred = parsed'.deferred.filter (· ∉ components) ∧
      Node.uses parsed'.nodes = (Node.uses parsed.nodes).filter (·.tag ∈ components') := by
  obtain ⟨q, hsteps, hrest, rfl⟩ := parseWithin_eq_ok_iff.mp h
  obtain ⟨q', hsteps', hrest', huses, hnames, -⟩ :=
    hsteps.exists_forget (settingFor_forgets text d hsub)
  refine ⟨_, parseWithin_eq_ok_iff.mpr ⟨q', hsteps', hrest'.trans hrest, rfl⟩, ?_, ?_⟩
  · rw [hnames, eraseDups_filter]
    rfl
  · rw [uses_content, uses_content, huses]
    rfl

/-- The component `A` is forgotten around a component that is still known. -/
theorem parseWithin_forget_outer :
    (∀ n ∈ [("B" : Text)], n ∈ [("A" : Text), "B"]) ∧
      parseWithin 2 "<A x=\"1\">t<B/></A><C>" ["A", "B"] =
        .ok ⟨[.component "A" [("x", "1")] [.raw "t", .component "B" [] [] true 10] false 0,
          .raw "<C>"], ["C"]⟩ ∧
      ∃ parsed', parseWithin 2 "<A x=\"1\">t<B/></A><C>" ["B"] = .ok parsed' ∧
        [("C" : Text)] = parsed'.deferred.filter (· ∉ [("A" : Text), "B"]) ∧
        Node.uses parsed'.nodes = [⟨"B", [], true, 10⟩] := by
  have hsub : ∀ n ∈ [("B" : Text)], n ∈ [("A" : Text), "B"] := by decide
  have hparse : parseWithin 2 "<A x=\"1\">t<B/></A><C>" ["A", "B"] =
      .ok ⟨[.component "A" [("x", "1")] [.raw "t", .component "B" [] [] true 10] false 0,
        .raw "<C>"], ["C"]⟩ := by
    with_unfolding_all rfl
  exact ⟨hsub, hparse, parseWithin_forget hsub hparse⟩

end Markup

end ComponentTags
