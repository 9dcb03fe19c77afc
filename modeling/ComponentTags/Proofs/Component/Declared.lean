/-
# Declared classes

The classes of components are made by declarations, one on top of the other.  Whatever was declared, the
fields of a record stand under their own names, each once, and so do the members of a class
(`Declared.tabular`); what markup knows of the fields has each name once (`nodup_fieldSpecs`).  Two fields may
still have the same attribute: then the later one takes it, and markup knows nothing of the other one
(`get?_fields_iff`).
-/
import ComponentTags.Component.Type
import ComponentTags.Proofs.Table

namespace ComponentTags

open Table (keys)

namespace ComponentClass

/-- A class that is made by declarations, its base included. -/
inductive Declared : ComponentClass → Prop
  | intro {d : ClassDeclaration} {c : ComponentClass} (hbase : ∀ b, d.base = some b → Declared b)
      (hmade : d.toClass = .ok c) : Declared c

/-- The fields and the members of a class stand under their names, each once. -/
structure Tabular (c : ComponentClass) : Prop where
  nodup_fields : c.fields.keys.Nodup
  name_eq : ∀ name f, (name, f) ∈ c.fields → name = f.name
  nodup_members : c.members.keys.Nodup

end ComponentClass

/-- What a declaration that makes a class adds to its base. -/
lemma ClassDeclaration.of_toClass {d : ClassDeclaration} {c : ComponentClass} (h : d.toClass = .ok c) :
    c.isRecord = (d.isRecord || d.base.any ComponentClass.isRecord) ∧
      c.fields = ((d.base.map ComponentClass.fields).getD []).setAll
        ((if d.isRecord then d.ownFields ((d.base.map ComponentClass.members).getD []) else []).map
          fun f => (f.name, f)) ∧
      c.members = ((d.base.map ComponentClass.members).getD []).setAll d.ownMembers := by
  unfold ClassDeclaration.toClass at h
  dsimp only at h
  split at h
  · rename_i hrecord
    split at h
    · cases h
    · cases h
      exact ⟨by rw [hrecord, Bool.true_or], by rw [if_pos hrecord], rfl⟩
  · rename_i hplain
    cases h
    exact ⟨rfl, by rw [if_neg hplain], rfl⟩

namespace ComponentClass

lemma tabular_of_toClass {d : ClassDeclaration} {c : ComponentClass}
    (hbase : ∀ b, d.base = some b → b.Tabular) (h : d.toClass = .ok c) : c.Tabular := by
  obtain ⟨-, hfields, hmembers⟩ := ClassDeclaration.of_toClass h
  -- without a base the tables that are added to are empty
  have hinherited : ((d.base.map ComponentClass.fields).getD []).keys.Nodup ∧
      (∀ name f, (name, f) ∈ (d.base.map ComponentClass.fields).getD [] → name = f.name) ∧
        ((d.base.map ComponentClass.members).getD []).keys.Nodup := by
    cases hb : d.base with
    | none => exact ⟨List.nodup_nil, nofun, List.nodup_nil⟩
    | some b => exact ⟨(hbase b hb).nodup_fields, (hbase b hb).name_eq, (hbase b hb).nodup_members⟩
  obtain ⟨hnodup, hnames, hmembersBase⟩ := hinherited
  refine ⟨hfields ▸ Table.nodup_keys_setAll hnodup, fun name f hf => ?_,
    hmembers ▸ Table.nodup_keys_setAll hmembersBase⟩
  rw [hfields] at hf
  rcases Table.mem_of_mem_setAll hf with hf | hf
  · exact hnames name f hf
  · obtain ⟨own, -, heq⟩ := List.mem_map.mp hf
    cases heq
    rfl

lemma Declared.tabular {c : ComponentClass} (h : c.Declared) : c.Tabular := by
  induction h with
  | intro _ hmade ih => exact tabular_of_toClass ih hmade

variable {c : ComponentClass} {hints : Table Text FieldType}

/-- The names of the fields are the keys of their table. -/
lemma Tabular.map_name (h : c.Tabular) : c.fields.values.map Field.name = c.fields.keys := by
  rw [Table.values, Table.keys, List.map_map]
  refine List.map_congr_left fun entry hentry => ?_
  exact (h.name_eq entry.1 entry.2 hentry).symm

lemma Tabular.get?_fields (h : c.Tabular) {f : Field} (hf : f ∈ c.fields.values) :
    c.fields.get? f.name = some f := by
  obtain ⟨⟨name, f'⟩, hentry, rfl⟩ := List.mem_map.mp hf
  rw [← Table.mem_iff_get? h.nodup_fields, ← h.name_eq name f' hentry]
  exact hentry

/-! ### What markup knows -/

lemma nodup_resolvedTypes (start : Table Text FieldType) {types : List (Text × FieldType)}
    (hstart : start.keys.Nodup) (h : resolvedTypes start types = .ok (some hints)) :
    hints.keys.Nodup := by
  fun_induction resolvedTypes start types with
  | case1 start =>
    cases h
    exact hstart
  | case2 => cases h
  | case3 => cases h
  | case4 start name expression rest e hread type hresolve ih => exact ih (Table.nodup_keys_set hstart) h
  | case5 start name type rest htype ih => exact ih (Table.nodup_keys_set hstart) h

lemma nodup_typeHints (h : c.typeHints = .ok hints) : hints.keys.Nodup := by
  unfold typeHints at h
  split at h
  · cases h
  · rename_i hresolved
    cases h
    exact nodup_resolvedTypes [] List.nodup_nil hresolved
  · cases h
    exact Table.nodup_keys_setAll List.nodup_nil

/-- Markup knows each field by a name of its own. -/
lemma Tabular.nodup_fieldSpecs (h : c.Tabular) (hhints : hints.keys.Nodup) :
    ((c.fieldSpecs hints).map FieldSpec.name).Nodup := by
  unfold fieldSpecs
  split
  · rw [List.map_map]
    have hsub : ((c.fields.values.filter fun f => !isPrivate f.name).map Field.name).Sublist
        c.fields.keys := h.map_name ▸ List.filter_sublist.map _
    exact h.nodup_fields.sublist hsub
  · rw [List.map_map]
    have hsub : ((hints.filter fun entry => !isPrivate entry.1 && entry.2 ≠ .shared true).map
        Prod.fst).Sublist hints.keys := List.filter_sublist.map _
    exact hhints.sublist hsub

end ComponentClass

/-! ### Component types -/

namespace ComponentType

variable {c : ComponentClass} {t : ComponentType} {hints : Table Text FieldType} {s s' : FieldSpec}
  {name : Text}

/-- A component type describes a class, in which the names of types have their meanings. -/
structure Describes (t : ComponentType) (c : ComponentClass) (hints : Table Text FieldType) : Prop where
  cls_eq : t.cls = c
  tabular : c.Tabular
  nodup_names : ((c.fieldSpecs hints).map FieldSpec.name).Nodup
  fields_eq : t.fields = Table.ofEntries ((c.fieldSpecs hints).map fun s => (s.markupName, s))
  childrenField_iff : ∀ n, t.childrenField = some n ↔
    ∃ s ∈ c.fieldSpecs hints, s.isChildren = true ∧ s.name = n

/-- The type of a class describes it. -/
lemma describes_of_componentType (hc : c.Declared) (hhints : c.typeHints = .ok hints)
    (h : c.componentType = .ok t) : t.Describes c hints := by
  have hnames := hc.tabular.nodup_fieldSpecs (ComponentClass.nodup_typeHints hhints)
  unfold ComponentClass.componentType at h
  rw [hhints] at h
  dsimp only at h
  split at h
  · cases h
  rename_i names hseveral
  split at h
  · cases h
  cases h
  refine ⟨rfl, hc.tabular, hnames, rfl, fun n => ?_⟩
  -- there is at most one field that receives the children
  have hhead : ∀ names : List Text, (∀ first second rest, names = first :: second :: rest → False) →
      (names.head? = some n ↔ n ∈ names) := by
    intro names hseveral
    match names with
    | [] => simp
    | [a] => simp [eq_comm]
    | a :: b :: rest => exact (hseveral a b rest rfl).elim
  rw [hhead _ hseveral, List.mem_map]
  simp only [List.mem_filter, and_assoc]

namespace Describes

variable (h : t.Describes c hints)

include h

lemma eq_of_name (hs : s ∈ c.fieldSpecs hints) (hs' : s' ∈ c.fieldSpecs hints)
    (hname : s.name = s'.name) : s = s' :=
  List.inj_on_of_nodup_map h.nodup_names hs hs' hname

/-- What an attribute finds is a field of the class with that attribute. -/
lemma of_get?_fields (hs : t.fields.get? name = some s) :
    s ∈ c.fieldSpecs hints ∧ s.markupName = name := by
  rw [h.fields_eq] at hs
  obtain ⟨s', hs', heq⟩ := List.mem_map.mp (Table.get?_ofEntries_mem hs)
  cases heq
  exact ⟨hs', rfl⟩

lemma nodup_fields : t.fields.keys.Nodup :=
  h.fields_eq ▸ Table.nodup_keys_setAll List.nodup_nil

/-- Markup knows the fields that it finds under their attributes. -/
lemma mem_fields_iff : s ∈ t.fields.values ↔ t.fields.get? s.markupName = some s := by
  constructor
  · intro hs
    obtain ⟨⟨name, s'⟩, hentry, rfl⟩ := List.mem_map.mp hs
    have hfound := (Table.mem_iff_get? h.nodup_fields).mp hentry
    rwa [(h.of_get?_fields hfound).2]
  · intro hs
    exact List.mem_map.mpr ⟨_, Table.mem_of_get? hs, rfl⟩

lemma mem_fieldSpecs (hs : s ∈ t.fields.values) : s ∈ c.fieldSpecs hints :=
  (h.of_get?_fields (h.mem_fields_iff.mp hs)).1

/-- Of the fields that markup knows, each has a name of its own. -/
lemma nodup_map_name : (t.fields.values.map FieldSpec.name).Nodup := by
  have hattributes : t.fields.values.map FieldSpec.markupName = t.fields.keys := by
    rw [Table.values, Table.keys, List.map_map]
    refine List.map_congr_left fun entry hentry => ?_
    exact (h.of_get?_fields ((Table.mem_iff_get? h.nodup_fields).mp hentry)).2
  have hnodup : t.fields.values.Nodup := (hattributes ▸ h.nodup_fields).of_map
  exact hnodup.map_on fun s hs s' hs' => h.eq_of_name (h.mem_fieldSpecs hs) (h.mem_fieldSpecs hs')

/-- Where no two fields have the same attribute, markup knows all fields, in their order. -/
lemma values_fields (hdistinct : ((c.fieldSpecs hints).map FieldSpec.markupName).Nodup) :
    t.fields.values = c.fieldSpecs hints := by
  have hkeys : keys ((c.fieldSpecs hints).map fun s => (s.markupName, s)) =
      (c.fieldSpecs hints).map FieldSpec.markupName := by
    rw [Table.keys, List.map_map]
    rfl
  rw [h.fields_eq, Table.ofEntries_of_nodup (hkeys ▸ hdistinct), Table.values, List.map_map]
  exact List.map_id _

end Describes

/-- A field is found under its attribute exactly when no later field has the same one. -/
theorem get?_fields_iff {front behind : List FieldSpec} (h : t.Describes c hints)
    (hspecs : c.fieldSpecs hints = front ++ s :: behind) :
    t.fields.get? s.markupName = some s ↔ ∀ s' ∈ behind, s'.markupName ≠ s.markupName := by
  have hsplit : t.fields = Table.ofEntries (front.map (fun s => (s.markupName, s)) ++
      (s.markupName, s) :: behind.map fun s => (s.markupName, s)) := by
    rw [h.fields_eq, hspecs, List.map_append, List.map_cons]
  have hkeys : keys (behind.map fun s => (s.markupName, s)) = behind.map FieldSpec.markupName := by
    rw [Table.keys, List.map_map]
    rfl
  constructor
  · intro hs s' hs' hsame
    -- a later field takes the attribute, and it has another name
    have hmem : s.markupName ∈ keys (behind.map fun s => (s.markupName, s)) :=
      hkeys ▸ List.mem_map.mpr ⟨s', hs', hsame⟩
    rw [hsplit, ← List.singleton_append, ← List.append_assoc, Table.ofEntries, Table.setAll_append] at hs
    obtain ⟨s'', hs'', hget⟩ := Table.exists_get?_setAll hmem
    rw [hget] at hs
    obtain ⟨x, hbehind, heq⟩ := List.mem_map.mp hs''
    obtain rfl : x = s := (Prod.mk.inj heq).2.trans (Option.some.inj hs)
    have hnames := h.nodup_names
    rw [hspecs, List.map_append, List.nodup_append, List.map_cons, List.nodup_cons] at hnames
    exact hnames.2.1.1 (List.mem_map_of_mem hbehind)
  · intro hothers
    rw [hsplit]
    refine Table.get?_ofEntries_append ?_
    rw [hkeys]
    intro hmem
    obtain ⟨s', hs', hsame⟩ := List.mem_map.mp hmem
    exact hothers s' hs' hsame

end ComponentType

end ComponentTags
