/-
# One more known component

A template that does not wait for a component does not use it.  If the component becomes known, the
template is therefore read as before, up to the first closing tag of the component that was kept as
text: a known component may only be closed where it is open, so reading ends there with an error
(`parseWithin_add`).  A template without such a closing tag is parsed into the same nodes.

The reading with the old components is followed step by step.  The only step that knowing the
component can change is the one that passes its closing tag.
-/
import ComponentTags.Proofs.Markup.Projection
import ComponentTags.Proofs.Markup.Tiling

namespace ComponentTags.Markup

/-! ### Following a reading that knows one component less -/

/-- A setting that differs from another one only in that `new` is known in addition. -/
structure Setting.Knows (new : Text) (s s' : Setting) : Prop where
  components : ∀ n, n ∈ s'.components ↔ n = new ∨ n ∈ s.components
  delimiters_eq : s'.delimiters = s.delimiters
  lowered_eq : s'.lowered = s.lowered

/-- A closing tag of `new` stands at the place of a fault, which says that `new` is not open there. -/
structure Strays (s : Setting) (new text : Text) (f : Fault) : Prop where
  closing : ∃ last, IsClosingTag new (Text.between text f.offset last)
  cause : f.cause = .unexpectedClosing new ∨
    ∃ outer ∈ s.components, f.cause = .mismatchedClosing new outer

variable {s s' : Setting} {levels : Nat} {opened : Option Text} {p q : Progress} {new text : Text}

/-- Names that were deferred stay deferred. -/
lemma Steps.deferred_subset (h : Steps s levels opened p q) : ∀ n ∈ p.deferred, n ∈ q.deferred := by
  have hforgets : s.Forgets s := ⟨fun _ hname => hname, rfl, rfl⟩
  obtain ⟨us, names, names', hfollows⟩ := h.exists_follows hforgets
  intro n hn
  rw [hfollows.adds.deferred_eq]
  exact List.mem_append_left _ hn

/-- A tag that stays raw text does so when a component is known that it does not wait for. -/
lemma Literal.learn {place n : Nat} {rest : Text} {names : List Text} (hs : s.Knows new s')
    (helement : isElementName new = false) (h : Literal s place rest n names) (hnew : new ∉ names) :
    Literal s' place rest n names := by
  have hraw : ∀ tag place rest, rawTextLength s tag place rest = rawTextLength s' tag place rest := by
    intro tag place rest
    simp only [rawTextLength, hs.lowered_eq]
  cases h with
  | element htag hname =>
    rw [hraw]
    exact .element (hs.delimiters_eq ▸ htag) hname
  | @unknown name a htag hname hunknown =>
    refine .unknown (hs.delimiters_eq ▸ htag) hname fun hknown => ?_
    obtain rfl | hknown := (hs.components name).mp hknown
    · simp [helement] at hnew
    · exact hunknown hknown

lemma OpensComponent.learn {rest name : Text} {a : Attributes} (hs : s.Knows new s')
    (h : OpensComponent s rest name a) : OpensComponent s' rest name a :=
  ⟨hs.delimiters_eq ▸ h.tag, h.name_capital, (hs.components name).mpr (.inr h.known)⟩

/-- What is passed is passed again, or it is the closing tag of the component that has become
known. -/
lemma Passes.learn {n : Nat} (hs : s.Knows new s') (h : Passes s opened p.rest n)
    (hopened : ∀ name ∈ opened, name ∈ s.components) (hrest : p.rest = text.drop p.place) :
    Passes s' opened p.rest n ∨ ∃ f, Strays s new text f ∧
      ∀ o : Option Opened, o.map Opened.tag = opened → Fails s' o p.place p.rest f := by
  generalize hp : p.rest = behind at h
  cases h with
  | span hkind hlength =>
    exact .inl (.span (hs.delimiters_eq ▸ hkind) (hs.delimiters_eq ▸ hlength))
  | character hspan hc => exact .inl (.character (hs.delimiters_eq ▸ hspan) hc)
  | declaration hspan hslash hletter hlength =>
    exact .inl (.declaration (hs.delimiters_eq ▸ hspan) hslash hletter hlength)
  | @closing rest name n hspan hclosing hother hunknown =>
    by_cases hname : name = new
    · subst hname
      right
      refine ⟨⟨p.place, strayClosing opened name⟩, ⟨⟨p.place + (2 + n), ?_⟩, ?_⟩, ?_⟩
      · rw [Text.between_eq, ← hrest, hp]
        exact (Closes.intro hspan hclosing).isClosingTag.1
      · cases opened with
        | none => exact .inl rfl
        | some outer => exact .inr ⟨outer, hopened outer rfl, rfl⟩
      · rintro o rfl
        exact .stray (hs.delimiters_eq ▸ hspan) hclosing hother ((hs.components name).mpr (.inl rfl))
    · refine .inl (.closing (hs.delimiters_eq ▸ hspan) hclosing hother fun hknown => ?_)
      exact ((hs.components name).mp hknown).elim hname hunknown

/-- A reading that does not wait for a component goes through when the component is known, or ends at
one of its closing tags. -/
lemma Steps.learn (hs : s.Knows new s') (helement : isElementName new = false)
    (h : Steps s levels opened p q) (hnew : new ∉ q.deferred)
    (hopened : ∀ name ∈ opened, name ∈ s.components) (hrest : p.rest = text.drop p.place) :
    Steps s' levels opened p q ∨ ∃ f, Strays s new text f ∧
      ∀ o : Option Opened, o.map Opened.tag = opened → Breaks s' levels o p f := by
  -- what is left to be read when `n` characters were read
  have behind : ∀ {n : Nat} {p : Progress}, p.rest = text.drop p.place →
      p.rest.drop n = text.drop (p.place + n) := by
    intro n p hrest
    rw [hrest, List.drop_drop]
  -- a step that is made as before
  have onward : ∀ {levels : Nat} {opened : Option Text} {p p' q : Progress},
      Steps s' levels opened p p' →
      (Steps s' levels opened p' q ∨ ∃ f, Strays s new text f ∧
        ∀ o : Option Opened, o.map Opened.tag = opened → Breaks s' levels o p' f) →
      Steps s' levels opened p q ∨ ∃ f, Strays s new text f ∧
        ∀ o : Option Opened, o.map Opened.tag = opened → Breaks s' levels o p f := by
    rintro levels opened p p' q hstep (hsteps | ⟨f, hstray, hbreaks⟩)
    · exact .inl (hstep.trans hsteps)
    · exact .inr ⟨f, hstray, fun o ho => (hbreaks o ho).after (ho ▸ hstep)⟩
  induction h with
  | refl => exact .inl .refl
  | pass h _ ih =>
    obtain hpass | ⟨f, hstray, hfails⟩ := h.learn hs hopened hrest
    · exact onward (.pass hpass .refl) (ih hnew hopened (behind hrest))
    · exact .inr ⟨f, hstray, fun o ho => .here .refl (hfails o ho)⟩
  | @literal _ n _ p q rest names hp h next ih =>
    have hnames : new ∉ names := fun hmem =>
      hnew (next.deferred_subset new (List.mem_append_right _ hmem))
    exact onward (.literal hp (h.learn hs helement hnames) .refl) (ih hnew hopened (behind hrest))
  | leaf hp h hself _ ih =>
    exact onward (.leaf hp (h.learn hs) hself .refl) (ih hnew hopened (behind hrest))
  | @component levels n _ p q inner rest name a hp h hself content hclose next ihc ih =>
    have hinner : new ∉ inner.deferred := fun hmem =>
      hnew (next.deferred_subset new (List.mem_append_right _ hmem))
    obtain hcontent | ⟨f, hstray, hbreaks⟩ := ihc hinner (by simpa using h.known) (behind hrest)
    · have hclose' := hs.delimiters_eq ▸ hclose
      exact onward (.component hp (h.learn hs) hself hcontent hclose' .refl)
        (ih hnew hopened (behind hrest))
    · exact .inr ⟨f, hstray, fun o _ => .inside .refl hp (h.learn hs) hself (hbreaks _ rfl)⟩

/-! ### Whole templates -/

lemma settingFor_knows {components components' : List Text} (text : Text) (d : Delimiters)
    (hadd : ∀ n, n ∈ components' ↔ n = new ∨ n ∈ components) :
    (settingFor text components d).Knows new (settingFor text components' d) :=
  ⟨hadd, rfl, rfl⟩

/-- A template that does not wait for a component is parsed into the same nodes, and waits for the
same components, when that component is known as well, unless a closing tag of it stands in the
template.  The only error there can be says that the component is not open at such a closing tag. -/
theorem parseWithin_add {components components' : List Text} {d : Delimiters} {name : Option Text}
    {parsed : Parsed} (hadd : ∀ n, n ∈ components' ↔ n = new ∨ n ∈ components)
    (helement : isElementName new = false)
    (h : parseWithin levels text components d name = .ok parsed) (hnew : new ∉ parsed.deferred) :
    parseWithin levels text components' d name = .ok parsed ∨
      ∃ f, Strays (settingFor text components d) new text f ∧
        parseWithin levels text components' d name = .error (.ofFault text name f) := by
  obtain ⟨q, hsteps, hrest, rfl⟩ := parseWithin_eq_ok_iff.mp h
  have hs := settingFor_knows text d hadd
  obtain hsteps' | ⟨f, hstray, hbreaks⟩ := hsteps.learn hs helement (by simpa using hnew) (by simp) rfl
  · exact .inl (parseWithin_eq_ok_iff.mpr ⟨q, hsteps', hrest, rfl⟩)
  · exact .inr ⟨f, hstray, parseWithin_eq_error_iff.mpr ⟨f, hbreaks none rfl, rfl⟩⟩

/-- The component `Box` becomes known, whose closing tag is in a comment only. -/
theorem parseWithin_add_unused :
    (∀ n, n ∈ [("Box" : Text), "A"] ↔ n = "Box" ∨ n ∈ [("A" : Text)]) ∧
      isElementName "Box" = false ∧
      parseWithin 2 "<A>x<C/></A><!-- </Box> -->" ["A"] =
        .ok ⟨[.component "A" [] [.raw "x", .raw "<C/>"] false 0, .raw "<!-- </Box> -->"], ["C"]⟩ ∧
      ("Box" : Text) ∉ [("C" : Text)] ∧
      (parseWithin 2 "<A>x<C/></A><!-- </Box> -->" ["Box", "A"] =
          .ok ⟨[.component "A" [] [.raw "x", .raw "<C/>"] false 0, .raw "<!-- </Box> -->"], ["C"]⟩ ∨
        ∃ f, Strays (settingFor "<A>x<C/></A><!-- </Box> -->" ["A"] .standard) "Box"
            "<A>x<C/></A><!-- </Box> -->" f ∧
          parseWithin 2 "<A>x<C/></A><!-- </Box> -->" ["Box", "A"] =
            .error (.ofFault "<A>x<C/></A><!-- </Box> -->" none f)) := by
  have hadd : ∀ n, n ∈ [("Box" : Text), "A"] ↔ n = "Box" ∨ n ∈ [("A" : Text)] := by simp
  have helement : isElementName "Box" = false := by decide
  have hparse : parseWithin 2 "<A>x<C/></A><!-- </Box> -->" ["A"] =
      .ok ⟨[.component "A" [] [.raw "x", .raw "<C/>"] false 0, .raw "<!-- </Box> -->"], ["C"]⟩ := by
    with_unfolding_all rfl
  have hnew : ("Box" : Text) ∉ [("C" : Text)] := by decide
  exact ⟨hadd, helement, hparse, hnew, parseWithin_add hadd helement hparse hnew⟩

/-- The template `</Card>` is text that waits for nothing, and it is an error when `Card` is known. -/
theorem parse_stray_closing :
    isComponentName "Card" = true ∧ isElementName "Card" = false ∧
      parseWithin 1 "</Card>" [] = .ok ⟨[.raw "</Card>"], []⟩ ∧
      parseWithin 1 "</Card>" ["Card"] =
        .error (.ofFault "</Card>" none ⟨0, .unexpectedClosing "Card"⟩) := by
  refine ⟨by decide, by decide, ?_, ?_⟩ <;> with_unfolding_all rfl

end ComponentTags.Markup
