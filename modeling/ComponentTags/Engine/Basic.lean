/-
# Engines

An engine holds the registered components with their compiled templates.  Registering a component
compiles its template and compiles again every template that waits for it.  Either all of this succeeds
or what was changed is undone.
-/
import ComponentTags.Compile
import ComponentTags.Component.Type
import ComponentTags.Graph
import ComponentTags.Template.Language

namespace ComponentTags

/-- The compiled template of a component. -/
structure CompiledTemplate (L : Language) where
  /-- The lowered text. -/
  lowered : Text
  /-- What the template language reads the lowered text as. -/
  tree : L.Tree
  /-- The names of tags that become components when they are registered, each once. -/
  deferred : List Text
  /-- The text of the template, kept as long as there are such names. -/
  source : Option Text

/-- A registered component. -/
structure Registration (L : Language) where
  /-- The type of the component. -/
  type : ComponentType
  /-- Its template. -/
  template : CompiledTemplate L

/-- An engine for a template language. -/
structure Engine (L : Language) where
  /-- The delimiters of its templates. -/
  delimiters : Delimiters := .standard
  /-- The number of components that may be open at the same time in a template. -/
  levels : Nat := usualLevels
  /-- Whether output is escaped unless it is markup. -/
  escapes : Bool := true
  /-- What stands for missing values. -/
  missing : Value.Missing := {}
  /-- The functions that templates can call, with the number of their calls. -/
  functions : Table Text (TemplateFunction × Nat) := []
  /-- The types of the registered components, in the order in which they were first registered. -/
  components : Table Text ComponentType := []
  /-- The templates of the registered components. -/
  templates : Table Text (CompiledTemplate L) := []
  /-- Which templates wait for which names. -/
  graph : Graph := {}

/-- Something that changes an engine and gives an `α` or fails.  What was changed before a failure stays
changed. -/
abbrev Update (L : Language) (α : Type) := ExceptT Failure (StateM (Engine L)) α

namespace Update

variable {L : Language} {α : Type}

/-- What has been computed without changing the engine. -/
def of (result : Except Failure α) : Update L α := fun e => (result, e)

/-- Runs an update, and changes the engine once more if it fails. -/
def undoing (a : Update L α) (undo : Engine L → Engine L) : Update L α := fun e =>
  match a e with
  | (.ok v, e') => (.ok v, e')
  | (.error f, e') => (.error f, undo e')

end Update

namespace Engine

variable {L : Language}

/-- The names of the registered components. -/
def known (e : Engine L) : List Text := e.components.keys

/-- The component of a name with its template. -/
def registration? (e : Engine L) (name : Text) : Option (Registration L) := do
  return ⟨← e.components.get? name, ← e.templates.get? name⟩

/-- The registered components with their templates. -/
def registered (e : Engine L) : Table Text (Registration L) :=
  e.known.filterMap fun name => (e.registration? name).map fun r => (name, r)

/-- The component of a name. -/
def lookUp (e : Engine L) (name : Text) : Except Error (Registration L) :=
  match e.registration? name with
  | some r => .ok r
  | none => .error (.problem (.notRegistered name) none)

/-! ## Registering -/

/-- Compiles the template of a component. -/
def compileTemplate (e : Engine L) (name source : Text) : Except Failure (CompiledTemplate L) :=
  match compile e.levels source e.known e.delimiters (some name) with
  | .error fault => .error (.library (.malformed fault))
  | .ok compiled =>
    let lowered := compiled.lowered.write e.delimiters
    match L.read e.delimiters lowered with
    | .error (.rejected r) => .error (.library (.problem (.rejected r.reason r.line) (some name)))
    | .error (.failed f) => .error f
    | .ok tree =>
      .ok ⟨lowered, tree, compiled.deferred,
        if compiled.deferred.isEmpty then none else some source⟩

/-- What is wrong with the name of a component. -/
def nameProblem? (name : Text) : Option Problem :=
  if !name.head?.any Text.isUpper then some (.privateComponent name)
  else if Markup.isElementName name then some (.elementName name)
  else none

/-- Compiles the template of a component again, from the text that was kept. -/
def compileAgain (e : Engine L) (name : Text) : Except Failure (CompiledTemplate L) :=
  match e.templates.get? name with
  | none => .error (.thrown "KeyError" (Text.quoted name))
  | some waiting => e.compileTemplate name (waiting.source.getD [])

/-- Compiles the template of a component again and keeps the result apart. -/
def recompile (e : Engine L) (name : Text) :
    StateT (Table Text (CompiledTemplate L)) (Except Failure) (List Text) := do
  let compiled ← e.compileAgain name
  modify (·.set name compiled)
  return compiled.deferred

/-- The engine in which a name stands for a type. -/
def withType (type : ComponentType) (e : Engine L) : Engine L :=
  { e with components := e.components.set type.name type }

/-- The engine in which a name stands for what it stood for before, if for anything. -/
def withPrevious (name : Text) (previous : Option ComponentType) (e : Engine L) : Engine L :=
  { e with components :=
      match previous with
      | none => e.components.erase name
      | some type => e.components.set name type }

/-- The engine that has taken over the template of a component and those that were compiled again. -/
def withTemplates (name : Text) (compiled : CompiledTemplate L)
    (others : Table Text (CompiledTemplate L))
    (e : Engine L) : Engine L :=
  { e with
    templates := (e.templates.set name compiled).setAll others
    graph := e.graph.setPending name compiled.deferred }

/-- Compiles the template of a component and every template that waits for it.  The graph changes only
when all of them have been compiled. -/
def compileAll (name source : Text) : Update L (CompiledTemplate L × Table Text (CompiledTemplate L)) := do
  let e ← get
  let compiled ← Update.of (e.compileTemplate name source)
  let (graph, others) ← Update.of ((e.graph.resolve name e.recompile).run [])
  modify fun e => { e with graph := graph }
  return (compiled, others)

/-- Registers components of a type with a template.  Their name is known while templates are compiled;
if one of them fails, it stands again for what it stood for before. -/
def registerType (type : ComponentType) (source : Text) : Update L Unit := do
  let previous := (← get).components.get? type.name
  modify (withType type)
  let (compiled, others) ←
    (compileAll type.name source).undoing (withPrevious type.name previous)
  modify (withTemplates type.name compiled others)

/-- Registers components of a class with a template. -/
def register (c : ComponentClass) (source : Text) : Update L Unit := do
  if let some p := nameProblem? c.name then
    throw (.library (.problem p none))
  let type ← Update.of c.componentType
  registerType type source

end Engine

end ComponentTags
