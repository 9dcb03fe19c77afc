/-
# Binding attributes

What the fields of a component have when it was made from the attributes of a tag and its children
(`fieldValues_of_instantiate`): a field that markup knows has the children, if it receives them, or the value
of its attribute; if it is given nothing, it has what a new component has (`ComponentClass.initial?`), and if
that is nothing, the empty value of its type.  Attributes that no field takes, attributes of the field that
receives the children, and the order of attributes make no difference (`fieldValues_congr`).

What a new component has is the default of the field as a rule (`initial?_eq_default?`).  It is not for a field
that is set later only and whose name is a member of the class with another value: the component has the
member, whether the field has a default or not (`initial?_eq_default?_iff`).

The children are not seen if a later field takes the attribute of the field that receives them
(`get?_fieldValues_children_iff`).
-/
import ComponentTags.Proofs.Component.Declared

namespace ComponentTags

namespace ComponentClass

/-- The default that a class declares for a field. -/
def default? (c : ComponentClass) (name : Text) : Option Value :=
  if c.isRecord then (c.fields.get? name).bind Field.default? else c.members.get? name

/-- What a new component has for a field that is given no value. -/
def initial? (c : ComponentClass) (name : Text) : Option Value :=
  if c.isRecord then
    (c.fields.get? name).bind fun f =>
      if f.isInit then f.default? else f.factory <|> c.members.get? name
  else c.members.get? name

variable {c : ComponentClass} {own values : Table Text Value} {name : Text} {f : Field}

/-! ### New components -/

/-- The members of a component: what it has of its own, and what its class has for all. -/
lemma get?_component (h : c.Tabular) (hown : own.keys.Nodup) :
    ∃ (listed : Option (List Text)) (members : Table Text Value),
      c.component own = .component c.home c.name listed members c.recovery ∧
        ∀ name, members.get? name = (own.get? name).or (c.members.get? name) := by
  refine ⟨_, _, rfl, fun name => ?_⟩
  have hall : (c.members.setAll own).keys.Nodup := Table.nodup_keys_setAll h.nodup_members
  have hget : (c.members.setAll own).get? name = (own.get? name).or (c.members.get? name) :=
    Table.get?_setAll hown
  -- the fields of a record come first, with the same values
  have hfields : Table.get? name (Table.named id (c.members.setAll own).get? c.fields.keys) =
      if name ∈ c.fields.keys then (c.members.setAll own).get? name else none := by
    split
    · rename_i hmem
      exact Table.get?_named (by rw [List.map_id]; exact h.nodup_fields) hmem
    · rename_i hnot
      refine Table.get?_eq_none_iff.mpr fun hmem => hnot ?_
      simpa using Table.keys_named_sublist.subset hmem
  rw [Table.get?_setAll hall, ← hget]
  refine (congrArg _ hfields).trans ?_
  split
  · exact Option.or_self
  · exact Option.or_none

/-- What a record is made with: the values of its fields, or what they have without one. -/
lemma construct_eq_ok (h : c.construct values = .ok own) :
    own = if c.isRecord then
      Table.named Field.name
        (fun f => if f.isInit then values.get? f.name <|> f.default? else f.factory) c.fields.values
    else [] := by
  unfold construct at h
  split at h
  · cases h
  · split at h
    · rename_i hplain
      rw [if_neg (by simpa using hplain)]
      split at h
      · exact (Except.ok.inj h).symm
      · cases h
    · rename_i hrecord
      rw [if_pos (by simpa using hrecord)]
      dsimp only at h
      split at h
      · cases h
      · split at h
        · exact (Except.ok.inj h).symm
        · cases h
        · cases h

lemma get?_construct (h : c.Tabular) (hrecord : c.isRecord = true)
    (hmade : c.construct values = .ok own) (hf : f ∈ c.fields.values) :
    own.get? f.name = if f.isInit then values.get? f.name <|> f.default? else f.factory := by
  rw [construct_eq_ok hmade, if_pos hrecord]
  exact Table.get?_named (h.map_name ▸ h.nodup_fields) hf

lemma Tabular.nodup_construct (h : c.Tabular) (hmade : c.construct values = .ok own) : own.keys.Nodup := by
  rw [construct_eq_ok hmade]
  split
  · exact Table.nodup_keys_named (h.map_name ▸ h.nodup_fields)
  · exact List.nodup_nil

end ComponentClass

/-- The value that the attributes of a tag and its children give to a field. -/
def FieldSpec.given? (s : FieldSpec) (attributes : Table Text Value) (children : Option Value) :
    Option Value :=
  if s.isChildren then children else attributes.get? s.markupName

namespace ComponentType

variable {c : ComponentClass} {t : ComponentType} {hints : Table Text FieldType} {s : FieldSpec}
  {attributes : Table Text Value} {children : Option Value} {v : Value}

/-! ### What is given -/

lemma nodup_given : (t.given attributes children).keys.Nodup := by
  have hnodup : ∀ entries : List (Text × Value), (Table.ofEntries entries).keys.Nodup :=
    fun entries => Table.nodup_keys_setAll List.nodup_nil
  unfold given
  dsimp only
  split
  · exact Table.nodup_keys_set (hnodup _)
  · exact hnodup _

/-- The values that attributes give to fields. -/
def attributeEntries (t : ComponentType) (attributes : Table Text Value) : List (Text × Value) :=
  attributes.filterMap fun (key, value) =>
    match t.fields.get? key with
    | some s => if s.isChildren then none else some (s.name, value)
    | none => none

lemma given_eq (t : ComponentType) (attributes : Table Text Value) (children : Option Value) :
    t.given attributes children =
      match children, t.childrenField with
      | some content, some field => (Table.ofEntries (t.attributeEntries attributes)).set field content
      | _, _ => Table.ofEntries (t.attributeEntries attributes) := rfl

/-- A field that markup knows is given the values of its attribute only, and none if it receives the
children. -/
lemma mem_attributeEntries_iff (h : t.Describes c hints) (hs : s ∈ t.fields.values) :
    (s.name, v) ∈ t.attributeEntries attributes ↔
      s.isChildren = false ∧ (s.markupName, v) ∈ attributes := by
  have hfound := h.mem_fields_iff.mp hs
  constructor
  · intro hmem
    obtain ⟨⟨key, value⟩, hentry, heq⟩ := List.mem_filterMap.mp hmem
    dsimp only at heq
    split at heq
    · rename_i s' hs'
      obtain ⟨hspec', rfl⟩ := h.of_get?_fields hs'
      split at heq
      · cases heq
      · rename_i hchildren
        obtain ⟨hname, rfl⟩ := Prod.mk.inj (Option.some.inj heq)
        obtain rfl := h.eq_of_name hspec' (h.mem_fieldSpecs hs) hname
        exact ⟨Bool.eq_false_iff.mpr hchildren, hentry⟩
    · cases heq
  · rintro ⟨hchildren, hentry⟩
    exact List.mem_filterMap.mpr ⟨_, hentry, by simp [hfound, hchildren]⟩

lemma get?_ofEntries_attributeEntries (h : t.Describes c hints) (hattributes : attributes.keys.Nodup)
    (hs : s ∈ t.fields.values) :
    (Table.ofEntries (t.attributeEntries attributes)).get? s.name =
      if s.isChildren then none else attributes.get? s.markupName := by
  ext v
  constructor
  · intro hv
    obtain ⟨hchildren, hentry⟩ := (mem_attributeEntries_iff h hs).mp (Table.get?_ofEntries_mem hv)
    rw [if_neg (by simp [hchildren])]
    exact (Table.mem_iff_get? hattributes).mp hentry
  · intro hv
    split at hv
    · cases hv
    · rename_i hchildren
      have hmem := (mem_attributeEntries_iff h hs).mpr
        ⟨Bool.eq_false_iff.mpr hchildren, Table.mem_of_get? hv⟩
      -- whichever entry counts, it has the value of the attribute
      obtain ⟨v', hmem', hv'⟩ := Table.exists_get?_setAll (t := []) (List.mem_map_of_mem hmem)
      have hentry := ((mem_attributeEntries_iff h hs).mp hmem').2
      rw [(Table.mem_iff_get? hattributes).mp hentry] at hv
      exact hv ▸ hv'

/-- A field that markup knows is given the children if it receives them, and the value of its attribute
otherwise. -/
lemma get?_given (h : t.Describes c hints) (hattributes : attributes.keys.Nodup)
    (hs : s ∈ t.fields.values) :
    (t.given attributes children).get? s.name = s.given? attributes children := by
  have hspec := h.mem_fieldSpecs hs
  have hentries := get?_ofEntries_attributeEntries h hattributes hs
  have hchildren : s.isChildren = true → t.childrenField = some s.name :=
    fun hs' => (h.childrenField_iff s.name).mpr ⟨s, hspec, hs', rfl⟩
  rw [given_eq, FieldSpec.given?]
  cases children with
  | none => exact hentries
  | some content =>
    cases hfield : t.childrenField with
    | none =>
      have hother : ¬s.isChildren = true := fun hs' => nomatch hfield.symm.trans (hchildren hs')
      simp only [hentries, if_neg hother]
    | some field =>
      simp only [Table.get?_set, hentries]
      obtain ⟨s', hs', hchildren', rfl⟩ := (h.childrenField_iff field).mp hfield
      by_cases hsame : s'.name = s.name
      · obtain rfl := h.eq_of_name hs' hspec hsame
        rw [if_pos rfl, if_pos hchildren']
      · have hother : ¬s.isChildren = true :=
          fun hs' => hsame (Option.some.inj (hfield.symm.trans (hchildren hs')))
        rw [if_neg hsame, if_neg hother, if_neg hother]

/-! ### What a component has -/

variable {own own' values rest : Table Text Value}

lemma setLater_eq_ok (h : setLater c own rest = .ok own') : own' = own.setAll rest := by
  induction rest generalizing own with
  | nil =>
    cases h
    rfl
  | cons entry rest ih =>
    obtain ⟨name, value⟩ := entry
    rw [setLater] at h
    split at h
    · cases h
    · exact ih h

/-- The value with which a record is made for a field. -/
def argument? (c : ComponentClass) (values : Table Text Value) (s : FieldSpec) : Option Value :=
  if (c.fields.get? s.name).any Field.isInit then
    (values.get? s.name).or (if s.hasDefault then none else some s.type.zero)
  else none

/-- The values with which a record is made. -/
def arguments (t : ComponentType) (values : Table Text Value) : Table Text Value :=
  Table.named FieldSpec.name (argument? t.cls values) t.fields.values

/-- The values that are set when a record is made already. -/
def later (c : ComponentClass) (values : Table Text Value) : Table Text Value :=
  values.filter fun entry => !(c.fields.get? entry.1).any Field.isInit

/-- A field of a component that is no record is set to what it is given, or to the empty value of its type. -/
def setField (c : ComponentClass) (values own : Table Text Value) (s : FieldSpec) : Table Text Value :=
  match values.get? s.name with
  | some v => own.set s.name v
  | none => if own.has s.name || c.members.has s.name then own else own.set s.name s.type.zero

/-- A component is made in one of two ways. -/
lemma instantiate_eq (t : ComponentType) (attributes : Table Text Value) (children : Option Value) :
    t.instantiate attributes children =
      if t.cls.isRecord then
        match t.cls.construct (Table.ofEntries (t.arguments (t.given attributes children))) with
        | .error f => .error f
        | .ok own =>
          (setLater t.cls own (later t.cls (t.given attributes children))).map t.cls.component
      else
        match t.cls.construct [] with
        | .error f => .error f
        | .ok own =>
          .ok (t.cls.component
            (t.fields.values.foldl (setField t.cls (t.given attributes children)) own)) := by
  have harguments : ∀ values : Table Text Value, (t.fields.values.filterMap fun s =>
      if (t.cls.fields.get? s.name).any Field.isInit then
        match values.get? s.name with
        | some v => some (s.name, v)
        | none => if s.hasDefault then none else some (s.name, s.type.zero)
      else none) = t.arguments values := by
    intro values
    refine List.filterMap_congr fun s _ => ?_
    unfold argument?
    split
    · cases values.get? s.name with
      | some v => rfl
      | none => cases s.hasDefault <;> rfl
    · rfl
  rw [← harguments]
  rfl

/-! ### Fields that are set one after the other -/

section SetField

variable {specs : List FieldSpec} {s' : FieldSpec}

lemma get?_setField (s : FieldSpec) (hown : own.get? s.name = none) :
    (setField c values own s).get? s.name =
      (values.get? s.name).or (if c.members.has s.name then none else some s.type.zero) := by
  unfold setField
  cases values.get? s.name with
  | some v => exact Table.get?_set_self _ _ _
  | none =>
    have hhas : own.has s.name = false := by rw [Table.has, hown, Option.isSome_none]
    simp only [hhas, Bool.false_or, Option.none_or]
    split
    · exact hown
    · exact Table.get?_set_self _ _ _

lemma get?_setField_of_ne (hne : s'.name ≠ s.name) :
    (setField c values own s').get? s.name = own.get? s.name := by
  unfold setField
  split
  · rw [Table.get?_set, if_neg hne]
  · split
    · rfl
    · rw [Table.get?_set, if_neg hne]

lemma nodup_setField (hown : own.keys.Nodup) : (setField c values own s).keys.Nodup := by
  unfold setField
  split
  · exact Table.nodup_keys_set hown
  · split
    · exact hown
    · exact Table.nodup_keys_set hown

lemma get?_foldl_setField_of_notMem (h : s.name ∉ specs.map FieldSpec.name) :
    (specs.foldl (setField c values) own).get? s.name = own.get? s.name := by
  induction specs generalizing own with
  | nil => rfl
  | cons s' rest ih =>
    obtain ⟨hne, hrest⟩ := not_or.mp (mt List.mem_cons.mpr h)
    rw [List.foldl_cons, ih hrest, get?_setField_of_ne (Ne.symm hne)]

/-- What a component that was made has of its own for a field that markup knows. -/
lemma get?_foldl_setField (hnames : (specs.map FieldSpec.name).Nodup) (hs : s ∈ specs)
    (hown : own.get? s.name = none) :
    (specs.foldl (setField c values) own).get? s.name =
      (values.get? s.name).or (if c.members.has s.name then none else some s.type.zero) := by
  induction specs generalizing own with
  | nil => cases hs
  | cons s' rest ih =>
    obtain ⟨hnot, hrest⟩ := List.nodup_cons.mp hnames
    rw [List.foldl_cons]
    rcases List.mem_cons.mp hs with rfl | hs
    · rw [get?_foldl_setField_of_notMem hnot, get?_setField s hown]
    · have hne : s'.name ≠ s.name := fun heq => hnot (heq ▸ List.mem_map_of_mem hs)
      exact ih hrest hs ((get?_setField_of_ne hne).trans hown)

lemma nodup_foldl_setField (hown : own.keys.Nodup) :
    (specs.foldl (setField c values) own).keys.Nodup := by
  induction specs generalizing own with
  | nil => exact hown
  | cons s rest ih => exact ih (nodup_setField hown)

end SetField

/-! ### The two ways to make a component -/

/-- The field of a record that markup knows. -/
lemma Describes.exists_field (h : t.Describes c hints) (hrecord : c.isRecord = true)
    (hs : s ∈ t.fields.values) :
    ∃ f ∈ c.fields.values, f.name = s.name ∧ c.fields.get? s.name = some f ∧
      s.hasDefault = f.hasDefault := by
  have hspec := h.mem_fieldSpecs hs
  rw [ComponentClass.fieldSpecs, if_pos hrecord] at hspec
  obtain ⟨f, hf, rfl⟩ := List.mem_map.mp hspec
  have hmem := (List.mem_filter.mp hf).1
  exact ⟨f, hmem, rfl, h.tabular.get?_fields hmem, rfl⟩

/-- A record has what its fields are given, when it is made or later, or what a new one has. -/
lemma value_of_record (h : t.Describes c hints) (hrecord : c.isRecord = true)
    (hmade : c.construct (Table.ofEntries (t.arguments values)) = .ok own)
    (hvalues : values.keys.Nodup) (hs : s ∈ t.fields.values) :
    ((Table.get? s.name (own.setAll (later c values))).or (c.members.get? s.name)).getD s.type.zero =
      ((values.get? s.name).or (c.initial? s.name)).getD s.type.zero := by
  obtain ⟨f, hf, hname, hfield, hdefault⟩ := h.exists_field hrecord hs
  have harguments : (Table.ofEntries (t.arguments values)).get? s.name = argument? c values s := by
    rw [arguments, Table.ofEntries_of_nodup (Table.nodup_keys_named h.nodup_map_name), h.cls_eq]
    exact Table.get?_named h.nodup_map_name hs
  have hown := ComponentClass.get?_construct h.tabular hrecord hmade hf
  have hlater : (later c values).get? s.name = if f.isInit then none else values.get? s.name := by
    rw [later, Table.get?_filter fun name => !(c.fields.get? name).any Field.isInit, hfield,
      Option.any_some]
    cases f.isInit <;> rfl
  have hnodup : (later c values).keys.Nodup := Table.nodup_keys_filter hvalues
  rw [hname, harguments, argument?, hfield, Option.any_some, hdefault] at hown
  rw [Table.get?_setAll hnodup, hlater, hown, ComponentClass.initial?, if_pos hrecord, hfield]
  cases hinit : f.isInit with
  | true =>
    -- the value was passed when the record was made
    cases values.get? s.name with
    | some v => simp [hinit]
    | none => cases hd : f.default? <;> simp [hinit, Field.hasDefault, hd]
  | false =>
    cases values.get? s.name with
    | some v => simp [hinit]
    | none => simp [hinit]

/-- A component that is no record has what its fields are given, or what its class has for all. -/
lemma value_of_plain (h : t.Describes c hints) (hrecord : c.isRecord = false) (hs : s ∈ t.fields.values) :
    ((Table.get? s.name (t.fields.values.foldl (setField c values) [])).or
        (c.members.get? s.name)).getD s.type.zero =
      ((values.get? s.name).or (c.initial? s.name)).getD s.type.zero := by
  rw [get?_foldl_setField h.nodup_map_name hs rfl, ComponentClass.initial?, hrecord,
    if_neg Bool.false_ne_true]
  cases values.get? s.name with
  | some v => simp
  | none => cases hm : c.members.get? s.name <;> simp [Table.has, hm]

/-- A component has of its own what its fields are given, or what a new one has, or the empty values of their
types. -/
lemma exists_own_of_instantiate (h : t.Describes c hints)
    (hv : t.instantiate attributes children = .ok v) :
    ∃ own : Table Text Value, v = c.component own ∧ own.keys.Nodup ∧ ∀ s ∈ t.fields.values,
      ((own.get? s.name).or (c.members.get? s.name)).getD s.type.zero =
        (((t.given attributes children).get? s.name).or (c.initial? s.name)).getD s.type.zero := by
  rw [instantiate_eq, h.cls_eq] at hv
  split at hv
  · rename_i hrecord
    split at hv
    · cases hv
    · rename_i own hmade
      cases hlater : setLater c own (later c (t.given attributes children)) with
      | error f =>
        rw [hlater] at hv
        cases hv
      | ok own' =>
        rw [hlater] at hv
        cases hv
        obtain rfl := setLater_eq_ok hlater
        exact ⟨_, rfl, Table.nodup_keys_setAll (h.tabular.nodup_construct hmade),
          fun s hs => value_of_record h hrecord hmade nodup_given hs⟩
  · rename_i hplain
    split at hv
    · cases hv
    · rename_i own hmade
      cases hv
      obtain rfl : own = [] := (ComponentClass.construct_eq_ok hmade).trans (if_neg hplain)
      exact ⟨_, rfl, nodup_foldl_setField List.nodup_nil,
        fun s hs => value_of_plain h (Bool.eq_false_iff.mpr hplain) hs⟩

/-! ### What the fields have -/

lemma Describes.nodup_keys_entries (h : t.Describes c hints) (value : FieldSpec → Value) :
    (Table.keys (t.fields.values.map fun s => (s.name, value s))).Nodup := by
  rw [Table.keys, List.map_map]
  exact h.nodup_map_name

/-- The fields of a component that was made, one after the other: what they are given, or what a new component
has, or the empty values of their types. -/
theorem fieldValues_of_instantiate (h : t.Describes c hints) (hattributes : attributes.keys.Nodup)
    (hv : t.instantiate attributes children = .ok v) :
    t.fieldValues v = t.fields.values.map fun s =>
      (s.name, ((s.given? attributes children).or (c.initial? s.name)).getD s.type.zero) := by
  obtain ⟨own, rfl, hown, hvalue⟩ := exists_own_of_instantiate h hv
  obtain ⟨listed, members, hcomponent, hmembers⟩ := ComponentClass.get?_component h.tabular hown
  have hentries : (t.fields.values.map fun s => (s.name, (members.get? s.name).getD s.type.zero)) =
      t.fields.values.map fun s =>
        (s.name, ((s.given? attributes children).or (c.initial? s.name)).getD s.type.zero) := by
    refine List.map_congr_left fun s hs => ?_
    rw [hmembers, hvalue s hs, get?_given h hattributes hs]
  rw [hcomponent, fieldValues, hentries]
  exact Table.ofEntries_of_nodup (h.nodup_keys_entries _)

/-- A field that markup knows has what it is given, or what a new component has, or the empty value of its
type. -/
theorem get?_fieldValues_instantiate (h : t.Describes c hints) (hattributes : attributes.keys.Nodup)
    (hv : t.instantiate attributes children = .ok v) (hs : s ∈ t.fields.values) :
    (t.fieldValues v).get? s.name =
      some (((s.given? attributes children).or (c.initial? s.name)).getD s.type.zero) := by
  rw [fieldValues_of_instantiate h hattributes hv]
  exact (Table.mem_iff_get? (h.nodup_keys_entries _)).mp (List.mem_map_of_mem hs)

/-- Only the attributes of the fields that do not receive the children make a difference. -/
theorem fieldValues_congr {attributes' : Table Text Value} {v' : Value} (h : t.Describes c hints)
    (hattributes : attributes.keys.Nodup) (hattributes' : attributes'.keys.Nodup)
    (hsame : ∀ s ∈ t.fields.values, s.isChildren = false →
      attributes.get? s.markupName = attributes'.get? s.markupName)
    (hv : t.instantiate attributes children = .ok v) (hv' : t.instantiate attributes' children = .ok v') :
    t.fieldValues v = t.fieldValues v' := by
  rw [fieldValues_of_instantiate h hattributes hv, fieldValues_of_instantiate h hattributes' hv']
  refine List.map_congr_left fun s hs => ?_
  have hgiven : s.given? attributes children = s.given? attributes' children := by
    unfold FieldSpec.given?
    split
    · rfl
    · rename_i hchildren
      exact hsame s hs (Bool.eq_false_iff.mpr hchildren)
  rw [hgiven]

/-- The children are what the field has that receives them exactly when no later field takes its attribute. -/
theorem get?_fieldValues_children_iff {front behind : List FieldSpec} {content : Value}
    (h : t.Describes c hints) (hspecs : c.fieldSpecs hints = front ++ s :: behind)
    (hchildren : s.isChildren = true) (hattributes : attributes.keys.Nodup)
    (hv : t.instantiate attributes (some content) = .ok v) :
    (t.fieldValues v).get? s.name = some content ↔ ∀ s' ∈ behind, s'.markupName ≠ s.markupName := by
  rw [← get?_fields_iff h hspecs, ← h.mem_fields_iff]
  constructor
  · intro hget
    -- what has the name of the field is the field
    have hkey : s.name ∈ t.fields.values.map FieldSpec.name := by
      rw [fieldValues_of_instantiate h hattributes hv] at hget
      obtain ⟨s', hs', heq⟩ := List.mem_map.mp (Table.mem_of_get? hget)
      exact List.mem_map.mpr ⟨s', hs', (Prod.mk.inj heq).1⟩
    obtain ⟨s', hs', hname⟩ := List.mem_map.mp hkey
    have hspec : s ∈ c.fieldSpecs hints := hspecs ▸ List.mem_append_right _ List.mem_cons_self
    exact h.eq_of_name (h.mem_fieldSpecs hs') hspec hname ▸ hs'
  · intro hs
    rw [get?_fieldValues_instantiate h hattributes hv hs, FieldSpec.given?, if_pos hchildren]
    rfl

/-- The later field takes the attribute of the one that receives the children. -/
example : (ClassDeclaration.toClass
    { name := "C"
      fields := [{ name := "body", type := some .markup, isChildren := true },
        { name := "other", type := some .text, markupName := some "body", default := some (.text "") }] }
    >>= ComponentClass.componentType).map (fun t => (t.childrenField, t.fields.values.map FieldSpec.name)) =
      .ok (some "body", ["other"]) := by
  with_unfolding_all rfl

end ComponentType

/-! ### Defaults -/

namespace ComponentClass

variable {c : ComponentClass} {hints : Table Text FieldType} {f : Field} {s : FieldSpec}

/-- A new component has the default of a field unless no value can be given for it when the component is made
and the class has another member of this name. -/
theorem initial?_eq_default?_iff (h : c.Tabular) (hrecord : c.isRecord = true) (hf : f ∈ c.fields.values) :
    c.initial? f.name = c.default? f.name ↔
      f.isInit = true ∨ f.factory.isSome = true ∨ c.members.get? f.name = f.default := by
  rw [initial?, default?, hrecord, if_pos rfl, if_pos rfl, h.get?_fields hf, Option.bind_some,
    Option.bind_some, Field.default?]
  cases f.isInit <;> cases f.factory <;> simp

/-- A field that is set later only has the member that its class inherits, and no default. -/
example : (ClassDeclaration.toClass
    { name := "D"
      fields := [{ name := "x", type := some .int, isInit := false }]
      base := some { name := "B", isRecord := false, members := [("x", .int 5)] } }).map
        (fun c => (c.initial? "x", c.default? "x")) = .ok (some (.int 5), none) := by
  with_unfolding_all rfl

/-- Markup knows whether a field has a default. -/
lemma isSome_default? (h : c.Tabular) (hs : s ∈ c.fieldSpecs hints) :
    (c.default? s.name).isSome = s.hasDefault := by
  unfold fieldSpecs at hs
  split at hs
  · rename_i hrecord
    obtain ⟨f, hf, rfl⟩ := List.mem_map.mp hs
    rw [default?, if_pos hrecord, h.get?_fields (List.mem_filter.mp hf).1]
    rfl
  · rename_i hplain
    obtain ⟨_, -, rfl⟩ := List.mem_map.mp hs
    rw [default?, if_neg hplain]
    rfl

end ComponentClass

/-- A field that is set later only has the default that is declared for it and no other one. -/
lemma FieldDeclaration.default_toField {declared : FieldDeclaration} {type : FieldType}
    {inherited : Table Text Value} {isUnordered : Bool}
    (h : (declared.toField type inherited isUnordered).isInit = false) :
    declared.isContent = false ∧
      (declared.toField type inherited isUnordered).default = declared.default := by
  obtain ⟨hcontent, hinit⟩ := Bool.or_eq_false_iff.mp h
  have hexplicit : declared.isExplicit = true := by simp [isExplicit, hinit]
  refine ⟨hcontent, ?_⟩
  rw [toField, defaultWith, hcontent, hexplicit]
  rfl

namespace ClassDeclaration

variable {d : ClassDeclaration} {c : ComponentClass} {declared : FieldDeclaration}

lemma get?_ownMembers (hnames : (d.fields.map FieldDeclaration.name).Nodup)
    (hdeclared : declared ∈ d.fields) :
    d.ownMembers.get? declared.name =
      if d.isRecord && declared.isContent then some (.markup []) else declared.default := by
  let member? (f : FieldDeclaration) : Option Value :=
    if d.isRecord && f.isContent then some (.markup []) else f.default
  have hnamed : d.ownMembers = Table.ofEntries (Table.named FieldDeclaration.name member? d.fields) := by
    refine congrArg Table.ofEntries (List.filterMap_congr fun f _ => ?_)
    dsimp only [member?]
    split <;> rfl
  rw [hnamed, Table.ofEntries_of_nodup (Table.nodup_keys_named hnames)]
  exact Table.get?_named hnames hdeclared

/-- A new component of a class without a base that declares each name once has the default of each field. -/
theorem initial?_eq_default? (hbase : d.base = none) (hnames : (d.fields.map FieldDeclaration.name).Nodup)
    (hmade : d.toClass = .ok c) {s : FieldSpec} {hints : Table Text FieldType}
    (hs : s ∈ c.fieldSpecs hints) : c.initial? s.name = c.default? s.name := by
  have htabular := (ComponentClass.Declared.intro (by simp [hbase]) hmade).tabular
  obtain ⟨hrecord, hfields, hmembers⟩ := of_toClass hmade
  simp only [hbase, Option.any_none, Bool.or_false, Option.map_none, Option.getD_none]
    at hrecord hfields hmembers
  cases hplain : c.isRecord with
  | false =>
    rw [ComponentClass.initial?, ComponentClass.default?, hplain]
    rfl
  | true =>
    rw [ComponentClass.fieldSpecs, if_pos hplain] at hs
    obtain ⟨f, hf, rfl⟩ := List.mem_map.mp hs
    have hmem := (List.mem_filter.mp hf).1
    refine (ComponentClass.initial?_eq_default?_iff htabular hplain hmem).mpr ?_
    -- the field is one that the class declares itself
    obtain ⟨⟨name, _⟩, hentry, rfl⟩ := List.mem_map.mp hmem
    rw [hfields, ← hrecord, hplain, if_pos rfl] at hentry
    obtain ⟨_, hown, heq⟩ :=
      List.mem_map.mp ((Table.mem_of_mem_setAll hentry).resolve_left List.not_mem_nil)
    cases heq
    obtain ⟨declared, hdeclared, hfield⟩ := List.mem_filterMap.mp hown
    split at hfield
    · split at hfield
      · cases hfield
      · cases hfield
        rw [or_iff_not_imp_left, Bool.not_eq_true]
        intro hlater
        obtain ⟨hcontent, hdefault⟩ := FieldDeclaration.default_toField hlater
        have hnodup : d.ownMembers.keys.Nodup := Table.nodup_keys_setAll (t := []) List.nodup_nil
        right
        calc c.members.get? declared.name
            = d.ownMembers.get? declared.name := by
              rw [hmembers, Table.get?_setAll hnodup]
              exact Option.or_none
          _ = declared.default := by
              rw [get?_ownMembers hnames hdeclared, hcontent, Bool.and_false]
              rfl
          _ = _ := hdefault.symm
    · cases hfield

end ClassDeclaration

/-- Where no two fields have the same attribute and new components have the defaults of their fields, each
field has what it is given, or its default, or the empty value of its type. -/
theorem ComponentType.fieldValues_of_defaults {c : ComponentClass} {t : ComponentType}
    {hints : Table Text FieldType} {attributes : Table Text Value} {children : Option Value} {v : Value}
    (h : t.Describes c hints) (hdistinct : ((c.fieldSpecs hints).map FieldSpec.markupName).Nodup)
    (hdefaults : ∀ s ∈ c.fieldSpecs hints, c.initial? s.name = c.default? s.name)
    (hattributes : attributes.keys.Nodup) (hv : t.instantiate attributes children = .ok v) :
    t.fieldValues v = (c.fieldSpecs hints).map fun s =>
      (s.name, ((s.given? attributes children).or (c.default? s.name)).getD s.type.zero) := by
  rw [fieldValues_of_instantiate h hattributes hv, h.values_fields hdistinct]
  refine List.map_congr_left fun s hs => ?_
  rw [hdefaults s hs]

end ComponentTags
