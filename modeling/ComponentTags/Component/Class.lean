/-
# Component classes

A component belongs to a class.  The class of a record declares fields, each with a type and perhaps a
default, and makes components from values for them; a record that is frozen does not let its fields be
set later.  A plain class declares types and shared members only, and its components have whatever is
set on them.  A class may have a base, whose fields and members it inherits.
-/
import ComponentTags.Component.FieldType

namespace ComponentTags

/-- A field as it is declared. -/
structure FieldDeclaration where
  /-- The name of the field. -/
  name : Text
  /-- The type; without one the declaration only makes a shared member. -/
  type : Option FieldType := none
  /-- The default. -/
  default : Option Value := none
  /-- What a default is made of that every component has for itself. -/
  factory : Option Value := none
  /-- The name of the attribute in markup, if it differs from that of the field. -/
  markupName : Option Text := none
  /-- Whether the field is marked as the one that receives the children. -/
  isChildren : Bool := false
  /-- Whether a value can be given when the component is made. -/
  isInit : Bool := true

/-- A field of a record. -/
structure Field where
  /-- The name of the field. -/
  name : Text
  /-- The type. -/
  type : FieldType
  /-- The name of the attribute in markup. -/
  markupName : Text
  /-- Whether the field is marked as the one that receives the children. -/
  isChildren : Bool
  /-- The default. -/
  default : Option Value
  /-- What a default is made of that every component has for itself. -/
  factory : Option Value
  /-- Whether a value can be given when the component is made. -/
  isInit : Bool
  /-- Whether the order of the fields does not matter to this one. -/
  isUnordered : Bool

namespace Field

/-- The value of a field for which nothing is given. -/
def default? (f : Field) : Option Value := f.factory <|> f.default

/-- Whether a field needs no value. -/
def hasDefault (f : Field) : Bool := f.default?.isSome

end Field

/-- A component class. -/
structure ComponentClass where
  /-- The module that defines the class. -/
  home : Text := "__main__"
  /-- The name of the class. -/
  name : Text
  /-- Whether it is the class of a record. -/
  isRecord : Bool
  /-- The fields of a record, those of the base first. -/
  fields : Table Text Field := []
  /-- The declared types: those of the base, then the class's own. -/
  types : List (Table Text FieldType) := []
  /-- The members that all components of the class share. -/
  members : Table Text Value := []
  /-- Whether fields cannot be set. -/
  isFrozen : Bool := false
  /-- What components of the class do when their template fails. -/
  recovery : Option Recovery := none
  /-- The message with which the class refuses to make components, if it does. -/
  refusal : Option Text := none

/-- A class as it is declared. -/
structure ClassDeclaration where
  /-- The module in which the class is declared. -/
  home : Text := "__main__"
  /-- The name of the class. -/
  name : Text
  /-- Whether it is the class of a record. -/
  isRecord : Bool := true
  /-- The fields in order. -/
  fields : List FieldDeclaration := []
  /-- The base. -/
  base : Option ComponentClass := none
  /-- Whether fields cannot be set. -/
  isFrozen : Bool := false
  /-- Whether the order of the fields does not matter. -/
  isUnordered : Bool := false
  /-- What components of the class do when their template fails. -/
  recovery : Option Recovery := none
  /-- The message with which the class refuses to make components, if it does. -/
  refusal : Option Text := none

namespace FieldDeclaration

/-- Whether a declaration says more than a type and a default. -/
def isExplicit (f : FieldDeclaration) : Bool :=
  f.markupName.isSome || f.isChildren || f.factory.isSome || !f.isInit

/-- Whether the field receives the children by its mark alone, which makes it empty markup by
default. -/
def isContent (f : FieldDeclaration) : Bool := f.isChildren && f.markupName.isNone

/-- The default of a field; one that only has a type takes over a member of the base. -/
def defaultWith (f : FieldDeclaration) (inherited : Table Text Value) : Option Value :=
  if f.isContent then some (.markup [])
  else if f.isExplicit then f.default
  else f.default <|> inherited.get? f.name

/-- The field of a record that a declaration makes. -/
def toField (f : FieldDeclaration) (type : FieldType) (inherited : Table Text Value)
    (isUnordered : Bool) : Field where
  name := f.name
  type := type
  markupName := f.markupName.getD f.name
  isChildren := f.isContent
  default := f.defaultWith inherited
  factory := if f.isContent then none else f.factory
  isInit := f.isContent || f.isInit
  isUnordered := isUnordered

end FieldDeclaration

namespace ClassDeclaration

/-- Whether components would share a default that can be changed. -/
def isChangeable : Value → Bool
  | .list _ | .dict _ | .set _ => true
  | _ => false

/-- The fields that a record declares itself. -/
def ownFields (c : ClassDeclaration) (inherited : Table Text Value) : List Field :=
  c.fields.filterMap fun f =>
    match f.type with
    | some type => if type.isShared then none else some (f.toField type inherited c.isUnordered)
    | none => none

/-- The members that a class declares itself. -/
def ownMembers (c : ClassDeclaration) : Table Text Value :=
  Table.ofEntries (c.fields.filterMap fun f =>
    if c.isRecord && f.isContent then some (f.name, .markup [])
    else f.default.map fun v => (f.name, v))

/-- The types that a class declares itself. -/
def ownTypes (c : ClassDeclaration) : Table Text FieldType :=
  Table.ofEntries (c.fields.filterMap fun f => f.type.map fun t => (f.name, t))

/-- The first ordered field without a default behind one that has a default. -/
def misplaced? (fields : List Field) : Option Field :=
  let ordered := fields.filter fun f => f.isInit && !f.isUnordered
  (ordered.dropWhile fun f => !f.hasDefault).find? fun f => !f.hasDefault

/-- What is wrong with the fields of a record. -/
def fault? (c : ClassDeclaration) (own : List Field) (all : Table Text Field) : Option Failure :=
  if c.fields.any fun f => !f.isContent && f.type.isSome && f.default.isSome && f.factory.isSome then
    some (.unsuitable "a field has a default and a factory")
  else if own.any fun f => f.default.any isChangeable then
    some (.unsuitable "a default can be changed")
  else if c.base.any fun b => b.isRecord && b.isFrozen != c.isFrozen then
    some (.arguments "a frozen record and one that is not frozen are no relatives")
  else if (misplaced? all.values).isSome then
    some (.arguments "a field without a default follows one with a default")
  else none

/-- The class that a declaration makes. -/
def toClass (c : ClassDeclaration) : Except Failure ComponentClass :=
  let inherited := (c.base.map ComponentClass.members).getD []
  let baseFields := (c.base.map ComponentClass.fields).getD []
  let isDerivedRecord := c.base.any ComponentClass.isRecord
  let own := if c.isRecord then c.ownFields inherited else []
  let all := baseFields.setAll (own.map fun f => (f.name, f))
  let made : ComponentClass :=
    { home := c.home
      name := c.name
      isRecord := c.isRecord || isDerivedRecord
      fields := all
      types := (c.base.map ComponentClass.types).getD [] ++ [c.ownTypes]
      members := inherited.setAll c.ownMembers
      isFrozen := if c.isRecord then c.isFrozen else c.base.any ComponentClass.isFrozen
      recovery := c.recovery <|> c.base.bind ComponentClass.recovery
      refusal := c.refusal <|> (if c.isRecord then none else c.base.bind ComponentClass.refusal) }
  if c.isRecord then
    match c.fault? own all with
    | some f => .error f
    | none => .ok made
  else .ok made

end ClassDeclaration

namespace ComponentClass

/-- Names in a message: quoted, with commas between them and the word `and` before the last. -/
def listNames : List Text → Text
  | [] => []
  | [a] => Text.quoted a
  | [a, b] => Text.quoted a ++ " and " ++ Text.quoted b
  | names =>
    Text.join ", " (names.dropLast.map Text.quoted) ++ ", and " ++
      ((names.getLast?).map Text.quoted).getD []

/-- The failure that some fields have no value. -/
def missingValues (c : ComponentClass) (what : Text) (names : List Text) : Failure :=
  .arguments (c.name ++ ".__init__() missing " ++ Text.ofNat names.length ++ " required " ++ what ++
    " argument" ++ (if names.length = 1 then [] else ['s']) ++ ": " ++ listNames names)

/-- The values that the fields of a new component have of their own. -/
def construct (c : ComponentClass) (values : Table Text Value) :
    Except Failure (Table Text Value) :=
  match c.refusal with
  | some message => .error (.unsuitable message)
  | none =>
    if !c.isRecord then
      if values.isEmpty then .ok [] else .error (.arguments (c.name ++ "() takes no arguments"))
    else
      let inits := c.fields.values.filter Field.isInit
      let lacking := inits.filter fun f => !f.hasDefault && !values.has f.name
      match values.keys.find? fun k => !(inits.any (·.name = k)) with
      | some k =>
        .error (.arguments (c.name ++ ".__init__() got an unexpected keyword argument " ++
          Text.quoted k))
      | none =>
        match (lacking.filter (!·.isUnordered)).map Field.name,
            (lacking.filter (·.isUnordered)).map Field.name with
        | [], [] =>
          .ok (c.fields.values.filterMap fun f =>
            (if f.isInit then values.get? f.name <|> f.default? else f.factory).map fun v =>
              (f.name, v))
        | [], unordered => .error (c.missingValues "keyword-only" unordered)
        | ordered, _ => .error (c.missingValues "positional" ordered)

/-- The component with some values of its own.  The fields of a record come first and in their
order. -/
def component (c : ComponentClass) (own : Table Text Value) : Value :=
  let all := c.members.setAll own
  let fields := c.fields.keys.filterMap fun name => (all.get? name).map fun v => (name, v)
  let listed := if c.isRecord then some c.fields.keys else none
  .component c.home c.name listed (Table.setAll fields all) c.recovery

/-- Makes a component from values for its fields. -/
def make (c : ComponentClass) (values : Table Text Value) : Except Failure Value :=
  (c.construct values).map c.component

end ComponentClass

end ComponentTags
