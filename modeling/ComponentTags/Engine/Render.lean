/-
# Rendering

Rendering runs the template of a component with the fields of the component, the component itself as
`this` and the component that is rendered as a whole as `root`.  The template calls out for the
components it uses; these are made from their attributes and rendered in the same way.

Calls within calls are counted down from `callLimit`, so that rendering always ends.
-/
import ComponentTags.Engine.Basic
import ComponentTags.Value.Context

namespace ComponentTags

open Template

variable {L : Language}

/-- The name under which templates know the functions given for one rendering. -/
def functionsName : Text := "glam__funcs"

/-- How deeply calls may be nested. -/
def callLimit : Nat := 2000

/-- The components that a run can use. -/
abbrev Components (L : Language) := Table Text (Registration L)

/-! ## Variables -/

/-- Functions as a value: a dictionary of their names. -/
def functionsValue (functions : Option (Table Text Value)) : Value :=
  match functions with
  | none => .none
  | some fs => Value.ofLocals fs

/-- The functions that are in such a value. -/
def functionsOf (v : Value) : Table Text Value :=
  match v with
  | .dict es => es.filterMap fun (k, v) => k.asText?.map fun n => (n, v)
  | _ => []

/-- The variables that the template of a component runs with. -/
def templateVariables (t : ComponentType) (instance_ root functions : Value) : Table Text Value :=
  Table.set functionsName functions
    (Table.set rootName root
      (Table.set thisName instance_
        (Table.setAll (functionsOf functions) (t.fieldValues instance_))))

/-! ## Recovering -/

/-- What a component does when its template fails. -/
inductive Recovering where
  /-- It does nothing. -/
  | never
  /-- It writes something. -/
  | byText (r : Recovery)
  /-- It tries to call something that cannot be called. -/
  | byValue (v : Value)

/-- The name of the operation with which components recover. -/
def recoverName : Text := "recover"

/-- What a component does when its template fails.  A member of that name replaces what its class does. -/
def recoveringOf (v : Value) : Recovering :=
  match v with
  | .component _ _ _ members recovery =>
    match Table.get? recoverName members, recovery with
    | some .none, _ => .never
    | some v, _ => .byValue v
    | none, some r => .byText r
    | none, none => .never
  | _ => .never

/-- Whether a component recovers from failures. -/
def recovers (v : Value) : Bool :=
  match recoveringOf v with
  | .never => false
  | _ => true

/-- What a component writes for a failure. -/
def Recovery.fill (r : Recovery) (f : Failure) : Text :=
  Text.replaceAll "\x7bmessage\x7d" f.message (Text.replaceAll "\x7bkind\x7d" f.kind r.text)

/-- The output of a component for a failure of its template. -/
def recovered (v : Value) (f : Failure) : Except Failure Text :=
  match recoveringOf v with
  | .never => .error f
  | .byText r =>
    match r.failure with
    | some message => .error (.unsuitable message)
    | none => .ok (r.fill f)
  | .byValue v => .error (.notCallable v.typeName)

/-! ## Contexts -/

/-- The attributes in a value. -/
def attributesOf (v : Value) : Except Failure (Table Text Value) :=
  match v with
  | .dict es => .ok (es.filterMap fun (k, v) => k.asText?.map fun n => (n, v))
  | v =>
    if v.truth then
      .error (.thrown "AttributeError" (Text.quoted v.typeName ++ " object has no attribute 'items'"))
    else .ok []

/-- The context that a call of the function for contexts makes. -/
def makeContext (arguments : List Value) : Except Failure Value := do
  match arguments with
  | [dot, root, values] => return Context.toValue ⟨dot, root, ← attributesOf values⟩
  | _ => throw (.arguments (scopeFunction ++ "() takes 3 arguments"))

/-- Calls an operation of a context. -/
def Context.operate (c : Context) (name : Text) (arguments : List Value) : Except Failure Value := do
  match arguments with
  | [values] => return (c.extend (← attributesOf values)).toValue
  | _ => throw (.arguments (name ++ "() takes other arguments"))

/-! ## Calls -/

/-- Looks up a name in a template that runs. -/
def lookUpName (s : Setting) (p : L.Place) (home : Running L.Tree) (n : Text) :
    L.Action (Option Value) := do
  let v := L.lookUp? s (← get).memory p n
  Action.note (.found home n v)
  return v

/-- Runs the template of a component. -/
def startTemplate (s : Setting) (call : L.Caller) (r : Registration L)
    (instance_ root functions : Value) : L.Action Unit := do
  let given := templateVariables r.type instance_ root functions
  Action.note (.started ⟨r.template.tree, given⟩)
  L.run s call r.template.tree given

/-- The output of a component. -/
def renderInstance (s : Setting) (call : L.Caller) (r : Registration L)
    (instance_ root functions : Value) : L.Action Text :=
  Action.recovering (Action.captured (startTemplate s call r instance_ root functions))
    fun f => Action.of (recovered instance_ f)

/-- The content of a component: what the block of a name puts out. -/
def renderBlock (s : Setting) (call : L.Caller) (p : L.Place) (home : Running L.Tree)
    (block carrier : Value) : L.Action Value := do
  if !block.truth then return .markup []
  else
    let name := block.shown
    match ← lookUpName s p home name with
    | none | some .none => Action.fail (.library (.problem (.missingBlock name) none))
    | some m =>
      Action.note (.entered home carrier)
      let content ← call p m { placed := [carrier] }
      return .markup (← Action.of content.display)

/-- Renders a component for a call in a template. -/
def renderCall (components : Components L) (s : Setting) (call : L.Caller) (p : L.Place)
    (home : Running L.Tree) (name block attributes carrier : Value) : L.Action Value := do
  match components.get? name.shown with
  | none => Action.fail (.library (.problem (.notRegistered name.shown) none))
  | some r =>
    let children ←
      if r.type.childrenField.isSome then
        pure (some (← renderBlock s call p home block carrier))
      else pure none
    let attributes ← Action.of (attributesOf attributes)
    let instance_ ← Action.of (r.type.instantiate attributes children)
    let root ← match carrier with
      | .context _ root _ => pure root
      | _ => pure ((← lookUpName s p home rootName).getD .none)
    let functions := (← lookUpName s p home functionsName).getD .none
    return .markup (← renderInstance s call r instance_ root functions)

/-- Answers a call of something of the engine.  The call and its answer are noted. -/
def answer (p : L.Place) (callee : Value) (a : Arguments)
    (act : Running L.Tree → List Value → L.Action Value) : L.Action Value := do
  let home := L.running (← get).memory p
  Action.note (.called home callee a)
  let v ← Action.unnamed a (act home)
  Action.note (.answered home callee a v)
  return v

/-- What a call does when calls are nested no deeper than `fuel`. -/
def callWithin (components : Components L) (s : Setting) : Nat → L.Caller
  | 0, _, _, _ => Action.fail .tooDeep
  | fuel + 1, p, callee, a =>
    match callee with
    | .callable (.function number) =>
      answer p callee a fun _ vs => Action.callFunction number vs
    | .callable .scopeMaker => answer p callee a fun _ vs => Action.of (makeContext vs)
    | .callable .renderer =>
      answer p callee a fun home vs =>
        match vs with
        | [name, block, attributes, carrier] =>
          renderCall components s (callWithin components s fuel) p home name block attributes carrier
        | _ => Action.fail (.arguments (renderFunction ++ "() takes 4 arguments"))
    | .method (.context dot root locals) name =>
      answer p callee a fun _ vs => Action.of (Context.operate ⟨dot, root, locals⟩ name vs)
    | v => L.call s (callWithin components s fuel) p v a

/-- What a call does. -/
def callOf (components : Components L) (s : Setting) : L.Caller := callWithin components s callLimit

/-! ## Whole components -/

/-- A rendering: what was put out, how it ended, and the engine after it. -/
structure Rendering (L : Language) where
  /-- What was put out. -/
  written : Text
  /-- How the rendering ended. -/
  result : Except Failure Unit
  /-- The engine, whose functions may have been called. -/
  engine : Engine L

namespace Engine

/-- The functions of the engine by name, given their numbers in a store. -/
def numbered (names : List Text) (first : Nat) : Table Text Value :=
  names.zipIdx.map fun (n, i) => (n, .callable (.function (first + i)))

/-- The setting of every run. -/
def setting (e : Engine L) : Setting where
  globals :=
    Table.set scopeFunction (.callable .scopeMaker)
      (Table.set renderFunction (.callable .renderer)
        (Table.setAll L.globals (numbered e.functions.keys 0)))
  missing := e.missing
  escapes := e.escapes

/-- The store that a run begins with: the functions of the engine and those of the rendering. -/
def store (e : Engine L) (functions : Table Text TemplateFunction) : L.Store where
  memory := L.empty
  owned := { functions := (e.functions.values ++ functions.values.map fun f => (f, 0)).toArray }

/-- The engine after a run that has left a store. -/
def after (e : Engine L) (st : L.Store) : Engine L :=
  { e with functions :=
      e.functions.zipIdx.map fun ((n, f, calls), i) =>
        (n, f, ((st.owned.functions[i]?).map Prod.snd).getD calls) }

/-- The failure of a whole rendering.  What is no error of the library becomes one. -/
def wrapped (name : Text) : Failure → Failure
  | .library e => .library e
  | f => .library (.problem (.failed f.kind f.message) (some name))

/-- What happens when a component is rendered, perhaps with functions that override those of the engine.
A component that recovers is put out when it is complete, any other bit by bit. -/
def rendering (e : Engine L) (r : Registration L) (component : Value)
    (functions : Option (Table Text TemplateFunction)) : L.Action Unit :=
  let s := e.setting
  let call := callOf e.registered s
  let given := functions.map fun fs => numbered fs.keys e.functions.length
  let fv := functionsValue given
  if recovers component then do
    Action.put (← renderInstance s call r component component fv)
  else startTemplate s call r component component fv

/-- Renders a component, perhaps with functions that override those of the engine. -/
def render (e : Engine L) (component : Value) (functions : Option (Table Text TemplateFunction)) :
    Rendering L :=
  match e.lookUp component.typeName with
  | .error err => ⟨[], .error (.library err), e⟩
  | .ok r =>
    let (result, st) := e.rendering r component functions (e.store (functions.getD []))
    ⟨st.output, result.mapError (wrapped r.type.name), e.after st⟩

/-- Renders a component of a class with the defaults of its fields. -/
def renderClass (e : Engine L) (name : Text) (functions : Option (Table Text TemplateFunction)) :
    Rendering L :=
  match e.lookUp name with
  | .error err => ⟨[], .error (.library err), e⟩
  | .ok r =>
    match r.type.instantiate [] none with
    | .error f => ⟨[], .error f, e⟩
    | .ok component => e.render component functions

end Engine

end ComponentTags
