/-
# Component types

What markup knows of a component class: which attributes it takes, which field receives the children,
and how a component is made from the attributes of a tag.  Attributes that no field takes are left
out, and a field that gets neither a value nor a default gets the empty value of its type.
-/
import ComponentTags.Component.Class

namespace ComponentTags

/-- The words that name the field for the children without a mark. -/
def childrenName : Text := "children"

/-- What markup knows of a field. -/
structure FieldSpec where
  /-- The name of the field. -/
  name : Text
  /-- The name of the attribute. -/
  markupName : Text
  /-- The type. -/
  type : FieldType
  /-- Whether the field receives the children. -/
  isChildren : Bool
  /-- Whether the field has a default. -/
  hasDefault : Bool

/-- A component type. -/
structure ComponentType where
  /-- The name of the component. -/
  name : Text
  /-- The class. -/
  cls : ComponentClass
  /-- The fields by their attributes. -/
  fields : Table Text FieldSpec
  /-- The field that receives the children. -/
  childrenField : Option Text

namespace ComponentClass

/-- The declared types with all expressions resolved, from the base on; `none` if one of them names
nothing. -/
def resolvedTypes (hints : Table Text FieldType) :
    List (Text × FieldType) → Except Failure (Option (Table Text FieldType))
  | [] => .ok (some hints)
  | (name, .named expression) :: rest =>
    match TypeExpression.read? expression with
    | none => .error (.thrown "SyntaxError" "a type is not well formed")
    | some e =>
      match resolve? e with
      | none => .ok none
      | some type => resolvedTypes (Table.set name type hints) rest
  | (name, type) :: rest => resolvedTypes (Table.set name type hints) rest

/-- The types of all names that a class or its base declares.  If one expression names nothing, all
expressions are left unresolved. -/
def typeHints (c : ComponentClass) : Except Failure (Table Text FieldType) :=
  match resolvedTypes [] c.types.flatten with
  | .error f => .error f
  | .ok (some hints) => .ok hints
  | .ok none => .ok (Table.ofEntries c.types.flatten)

/-- Whether a name is for the class's own use. -/
def isPrivate (name : Text) : Bool := name.head? = some '_'

/-- What markup knows of the fields of a class. -/
def fieldSpecs (c : ComponentClass) (hints : Table Text FieldType) : List FieldSpec :=
  if c.isRecord then
    (c.fields.values.filter fun f => !isPrivate f.name).map fun f =>
      ⟨f.name, f.markupName, (hints.get? f.name).getD f.type,
        f.isChildren || f.name = childrenName, f.hasDefault⟩
  else
    (hints.filter fun (name, type) => !isPrivate name && type ≠ .shared true).map
      fun (name, type) => ⟨name, name, type, name = childrenName, c.members.has name⟩

/-- Whether the name of a field means something else in templates. -/
def isTaken (name : Text) : Bool := name = thisName || name = rootName || isReserved name

/-- The component type of a class. -/
def componentType (c : ComponentClass) : Except Failure ComponentType :=
  match c.typeHints with
  | .error f => .error f
  | .ok hints =>
    let specs := c.fieldSpecs hints
    let refused (p : Problem) : Except Failure ComponentType := .error (.library (.problem p none))
    match (specs.filter FieldSpec.isChildren).map FieldSpec.name with
    | first :: second :: rest =>
      refused (.severalChildrenFields c.name (first :: second :: rest))
    | children =>
      match specs.find? fun s => isTaken s.name with
      | some s => refused (.reservedField c.name s.name)
      | none => .ok ⟨c.name, c, Table.ofEntries (specs.map fun s => (s.markupName, s)), children.head?⟩

end ComponentClass

namespace ComponentType

/-- The values that the attributes of a tag and its children give to fields. -/
def given (t : ComponentType) (attributes : Table Text Value) (children : Option Value) :
    Table Text Value :=
  let values := Table.ofEntries (attributes.filterMap fun (key, value) =>
    match t.fields.get? key with
    | some s => if s.isChildren then none else some (s.name, value)
    | none => none)
  match children, t.childrenField with
  | some content, some field => values.set field content
  | _, _ => values

/-- Sets fields that are not set when a component is made. -/
def setLater (c : ComponentClass) (own : Table Text Value) :
    List (Text × Value) → Except Failure (Table Text Value)
  | [] => .ok own
  | (name, value) :: rest =>
    if c.isFrozen then .error (.frozenField name) else setLater c (own.set name value) rest

/-- Makes a component from the attributes of a tag and the markup of its children. -/
def instantiate (t : ComponentType) (attributes : Table Text Value) (children : Option Value) :
    Except Failure Value :=
  let values := t.given attributes children
  let c := t.cls
  let specs := t.fields.values
  if c.isRecord then
    let isInit (name : Text) : Bool := (c.fields.get? name).any Field.isInit
    let arguments := Table.ofEntries (specs.filterMap fun s =>
      if isInit s.name then
        match values.get? s.name with
        | some v => some (s.name, v)
        | none => if s.hasDefault then none else some (s.name, s.type.zero)
      else none)
    match c.construct arguments with
    | .error f => .error f
    | .ok own =>
      (setLater c own (values.filter fun (name, _) => !isInit name)).map c.component
  else
    match c.construct [] with
    | .error f => .error f
    | .ok own =>
      let set := specs.foldl (fun (own : Table Text Value) s =>
        match values.get? s.name with
        | some v => own.set s.name v
        | none =>
          if own.has s.name || c.members.has s.name then own else own.set s.name s.type.zero) own
      .ok (c.component set)

/-- The fields of a component by their names, as its template reads them. -/
def fieldValues (t : ComponentType) (v : Value) : Table Text Value :=
  let members : Table Text Value :=
    match v with
    | .component _ _ _ members _ => members
    | _ => []
  Table.ofEntries (t.fields.values.map fun s => (s.name, (members.get? s.name).getD s.type.zero))

end ComponentType

end ComponentTags
