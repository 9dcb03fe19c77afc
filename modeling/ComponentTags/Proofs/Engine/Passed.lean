/-
# What components are made of

What the engine makes of values has only what could be called in them already: this holds for the components
that are made from attributes, for the variables of their templates, and for contexts.
-/
import ComponentTags.Engine.Render
import ComponentTags.Proofs.Value.Callables

namespace ComponentTags

/-! ### Components -/

section

open Value

variable {P : Callable → Prop}

/-- All that can be called in the values of a class has a property. -/
structure ComponentClass.CallsOnly (P : Callable → Prop) (c : ComponentClass) : Prop where
  members : TableCallsOnly P c.members
  default? : ∀ f ∈ c.fields.values, OptionCallsOnly P f.default?
  factory : ∀ f ∈ c.fields.values, OptionCallsOnly P f.factory

namespace ComponentClass

variable {c : ComponentClass} {own values : Table Text Value}

lemma CallsOnly.component (hc : c.CallsOnly P) (h : TableCallsOnly P own) :
    (c.component own).CallsOnly P := by
  have hall : TableCallsOnly P (c.members.setAll own) := hc.members.setAll h
  refine callsOnly_component.mpr (TableCallsOnly.setAll ?_ hall)
  intro m hm
  obtain ⟨name, -, hm⟩ := List.mem_filterMap.mp hm
  obtain ⟨v, hv, rfl⟩ := Option.map_eq_some_iff.mp hm
  exact hall.get? hv

end ComponentClass

namespace ComponentType

variable {t : ComponentType} {attributes own : Table Text Value} {children : Option Value} {v : Value}

end ComponentType

/-! ### Variables and contexts -/

/-- The entries of a dictionary with texts as keys, as a table. -/
lemma EntriesCallOnly.filterMap {es : List (Value × Value)} (h : EntriesCallOnly P es) :
    TableCallsOnly P (es.filterMap fun (k, v) => k.asText?.map fun n => (n, v)) := by
  intro m hm
  obtain ⟨e, he, hm⟩ := List.mem_filterMap.mp hm
  obtain ⟨n, -, rfl⟩ := Option.map_eq_some_iff.mp hm
  exact (h e he).2

lemma gives_attributesOf {v : Value} (h : v.CallsOnly P) :
    Gives (TableCallsOnly P) (attributesOf v) := by
  unfold attributesOf
  split
  · exact Gives.ok_iff.mpr (EntriesCallOnly.filterMap (callsOnly_dict.mp h))
  · split <;> simp

lemma Context.gives_operate {c : Context} {n : Text} {vs : List Value} (h : c.toValue.CallsOnly P)
    (hvs : ∀ v ∈ vs, v.CallsOnly P) : Gives (CallsOnly P) (c.operate n vs) := by
  unfold operate
  split
  · next values =>
    obtain ⟨hdot, hroot, hlocals⟩ := callsOnly_context.mp h
    exact (gives_attributesOf (hvs values (by simp))).bind fun new hnew =>
      Gives.pure_iff.mpr (.context hdot hroot (hlocals.setAll hnew))
  · exact Gives.error

end

end ComponentTags
