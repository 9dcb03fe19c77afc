/-
# Boxes

A box is a component whose class is that of records with one field, for the children (`IsBoxClass`).  A component of
such a class is made of any children, and its template knows them (`hasChildren_of_isBoxClass`).
-/
import ComponentTags.Proofs.Component.Binding

namespace ComponentTags.Hoisting

/-- Components of a type are made of their children alone, and have them as a variable. -/
structure HasChildren (t : ComponentType) : Prop where
  /-- Some field receives the children. -/
  isSome_childrenField : t.childrenField.isSome = true
  /-- Without attributes a component is made, and its template knows the children. -/
  exists_instance : ∀ content, ∃ v, t.instantiate [] (some content) = .ok v ∧
    (t.fieldValues v).get? childrenName = some content

/-- A class of records with one field, which receives the children. -/
structure IsBoxClass (c : ComponentClass) : Prop where
  /-- The class is declared. -/
  declared : c.Declared
  /-- It is a class of records. -/
  isRecord : c.isRecord = true
  /-- It has a field for the children, and a value can be given for it. -/
  exists_field : ∃ f, c.fields = [(childrenName, f)] ∧ f.isInit = true
  /-- It makes components. -/
  refusal_eq : c.refusal = none

variable {c : ComponentClass} {t : ComponentType}

/-- A box is made of its children. -/
theorem hasChildren_of_isBoxClass (h : IsBoxClass c) (ht : c.componentType = .ok t) : HasChildren t := by
  obtain ⟨f, hfields, hinit⟩ := h.exists_field
  have hname : childrenName = f.name := h.declared.tabular.name_eq _ _ (by rw [hfields]; exact .head _)
  obtain ⟨hints, hhints⟩ : ∃ hints, c.typeHints = .ok hints := by
    unfold ComponentClass.componentType at ht
    split at ht
    · cases ht
    · exact ⟨_, ‹_›⟩
  have hdescribes := ComponentType.describes_of_componentType h.declared hhints ht
  let s : FieldSpec := ⟨f.name, f.markupName, (hints.get? f.name).getD f.type,
    f.isChildren || f.name = childrenName, f.hasDefault⟩
  have hs : s.name = childrenName := hname.symm
  have hchildren : s.isChildren = true := by simp [s, hname]
  have hspecs : c.fieldSpecs hints = [s] := by
    rw [ComponentClass.fieldSpecs, if_pos h.isRecord, hfields]
    simp only [Table.values, List.map_cons, List.map_nil]
    rw [List.filter_cons_of_pos (by rw [← hname]; decide)]
    rfl
  have hfield : t.childrenField = some childrenName :=
    (hdescribes.childrenField_iff childrenName).mpr ⟨s, by rw [hspecs]; exact .head _, hchildren, hs⟩
  have hvalues : t.fields.values = [s] := by
    rw [hdescribes.values_fields (by rw [hspecs]; exact List.nodup_singleton _), hspecs]
  have hfound : c.fields.get? childrenName = some f := by rw [hfields]; exact if_pos rfl
  refine ⟨by rw [hfield]; rfl, fun content => ?_⟩
  have hgiven : t.given [] (some content) = [(childrenName, content)] := by
    rw [ComponentType.given_eq, hfield]
    rfl
  have harguments : t.arguments [(childrenName, content)] = [(childrenName, content)] := by
    have hargument : ComponentType.argument? t.cls [(childrenName, content)] s = some content := by
      rw [ComponentType.argument?, hdescribes.cls_eq, hs, hfound, Option.any_some, hinit]
      rfl
    rw [ComponentType.arguments, hvalues, Table.named, List.filterMap_cons, hargument, hs]
    rfl
  have hconstruct : c.construct [(childrenName, content)] = .ok [(childrenName, content)] := by
    rw [ComponentClass.construct, h.refusal_eq, h.isRecord, hfields]
    simp [Table.values, Table.keys, hinit, ← hname, Table.has, Table.get?]
  have hlater : ComponentType.later c [(childrenName, content)] = [] := by
    rw [ComponentType.later, List.filter_cons_of_neg (by simp [hfound, hinit]), List.filter_nil]
  have hentries : Table.ofEntries [(childrenName, content)] = [(childrenName, content)] :=
    Table.ofEntries_of_nodup (by exact List.nodup_singleton _)
  have hmade : t.instantiate [] (some content) = .ok (c.component [(childrenName, content)]) := by
    rw [ComponentType.instantiate_eq, hgiven, harguments, hdescribes.cls_eq, if_pos h.isRecord, hentries,
      hconstruct, hlater]
    rfl
  refine ⟨_, hmade, ?_⟩
  have hvalue := ComponentType.get?_fieldValues_instantiate (s := s) hdescribes (by exact List.nodup_nil) hmade
    (by rw [hvalues]; exact .head _)
  rwa [FieldSpec.given?, if_pos hchildren, hs] at hvalue

/-- The declaration of a record with one field, marked as the one for the children. -/
def boxDeclaration (name : Text) : ClassDeclaration where
  name := name
  fields := [{ name := childrenName, type := some .markup, isChildren := true }]

/-- A class that is declared so is one of boxes. -/
theorem isBoxClass_of_toClass {name : Text} (h : (boxDeclaration name).toClass = .ok c) : IsBoxClass c where
  declared := .intro (fun _ hbase => by cases hbase) h
  isRecord := (ClassDeclaration.of_toClass h).1
  exists_field := ⟨_, (ClassDeclaration.of_toClass h).2.1, rfl⟩
  refusal_eq := by
    cases h
    rfl

end ComponentTags.Hoisting
