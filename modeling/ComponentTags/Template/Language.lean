/-
# Template languages

An engine leaves it to a template language to read lowered templates and to run them.  The templates that
run call out: a call comes to the engine, which answers it if it is for one of its own functions and hands it
back to the language otherwise.

While templates run, a store holds what was put out, what the language remembers of them, and what belongs
to the engine: how often its functions were called, and a journal of what has happened between it and the
templates.  What templates mean is left open here.
-/
import ComponentTags.Lowered.Write
import ComponentTags.Template.Function

namespace ComponentTags

namespace Template

/-- Why a template language rejects a template, and the line of it. -/
structure Rejection where
  /-- The reason. -/
  reason : Text
  /-- The line, counted from one. -/
  line : Nat
deriving DecidableEq, Repr

/-- The arguments of a call. -/
structure Arguments where
  /-- The arguments by their places. -/
  placed : List Value := []
  /-- The arguments by names. -/
  named : Table Text Value := []

/-- What does not change while templates run. -/
structure Setting where
  /-- The names that every template knows. -/
  globals : Table Text Value := []
  /-- What stands for missing values. -/
  missing : Value.Missing := {}
  /-- Whether output is escaped unless it is markup. -/
  escapes : Bool := true

end Template

open Template (Rejection Arguments Setting)

/-- Why a lowered template cannot be used. -/
inductive Refusal where
  /-- The template language rejects it. -/
  | rejected (r : Rejection)
  /-- Something else went wrong while it was read. -/
  | failed (f : Failure)

/-! ## What templates do with names -/

/-- What a template does with a name. -/
inductive Mention where
  /-- It reads the name. -/
  | reads (name : Text)
  /-- It sets the name, or a macro has it as a parameter. -/
  | binds (name : Text)
  /-- The language gives the name a meaning of its own in a part of the template. -/
  | gives (name : Text)
  /-- It defines a macro.  A block is a macro whose only parameter is the context of a content. -/
  | defines (name : Text) (isBlock : Bool)
  /-- It calls the function that renders components in the form that lowering writes, with `none`, a new
  context, the context of the content or this one extended by captured variables. -/
  | callsOut
deriving DecidableEq, Repr

/-- The names that a mention binds or gives a meaning of their own.  A block binds the context. -/
def Mention.bound : Mention → List Text
  | reads _ | callsOut => []
  | binds n | gives n | defines n false => [n]
  | defines n true => [n, contextName]

/-! ## The side of the engine -/

/-- A template that runs. -/
structure Running (Tree : Type) where
  /-- The template. -/
  tree : Tree
  /-- The variables that it was given. -/
  given : Table Text Value

/-- What happens between an engine and the templates that run. -/
inductive Event (Tree : Type) where
  /-- A template was started. -/
  | started (run : Running Tree)
  /-- A template has called something of the engine. -/
  | called (home : Running Tree) (callee : Value) (arguments : Arguments)
  /-- The engine has answered such a call. -/
  | answered (home : Running Tree) (callee : Value) (arguments : Arguments) (answer : Value)
  /-- The engine has called a block of a template with a context. -/
  | entered (home : Running Tree) (carrier : Value)
  /-- The engine has looked up a name in a template. -/
  | found (home : Running Tree) (name : Text) (value : Option Value)

namespace Host

/-- What belongs to an engine while templates run. -/
structure Owned (Tree : Type) where
  /-- The functions, with the number of their calls. -/
  functions : Array (TemplateFunction × Nat) := #[]
  /-- What has happened, the last first. -/
  journal : List (Event Tree) := []

/-- What changes while templates run. -/
structure Store (Tree Memory : Type) where
  /-- What was put out, the last part first. -/
  written : List Text := []
  /-- What the language remembers. -/
  memory : Memory
  /-- What belongs to the engine. -/
  owned : Owned Tree := {}

/-- What was put out as a whole. -/
def Store.output {Tree Memory : Type} (st : Store Tree Memory) : Text := st.written.reverse.flatten

/-- Something that runs on a store and gives an `α` or fails.  What was changed before a failure stays
changed. -/
abbrev Action (Tree Memory α : Type) := ExceptT Failure (StateM (Store Tree Memory)) α

/-- What a call does, given where it stands. -/
abbrev Caller (Tree Memory Place : Type) := Place → Value → Arguments → Action Tree Memory Value

end Host

/-! ## Languages -/

/-- A template language. -/
structure Language where
  /-- What templates are read as. -/
  Tree : Type
  /-- What it remembers of the templates that run. -/
  Memory : Type
  /-- The places at which calls stand in templates that run. -/
  Place : Type
  /-- Reads a template. -/
  read : Delimiters → Text → Except Refusal Tree
  /-- What a template does with names, including everything that it takes over from other templates. -/
  mentions : Tree → List Mention
  /-- The names that every template knows by itself. -/
  globals : Table Text Value
  /-- What is remembered at the beginning. -/
  empty : Memory
  /-- The template that runs at a place. -/
  running : Memory → Place → Running Tree
  /-- The value of a name in an expression at a place, if it has one. -/
  value? : Setting → Memory → Place → Text → Option Value
  /-- What a function finds under a name that looks it up at the place of its call. -/
  lookUp? : Setting → Memory → Place → Text → Option Value
  /-- Runs a template with some variables. -/
  run : Setting → Host.Caller Tree Memory Place → Tree → Table Text Value → Host.Action Tree Memory Unit
  /-- What a call does that is not for the engine. -/
  call : Setting → Host.Caller Tree Memory Place → Host.Caller Tree Memory Place

namespace Language

variable (L : Language)

/-- What changes while templates of a language run. -/
abbrev Store := Host.Store L.Tree L.Memory

/-- Something that runs on such a store. -/
abbrev Action (α : Type) := Host.Action L.Tree L.Memory α

/-- What a call does in a template of a language. -/
abbrev Caller := Host.Caller L.Tree L.Memory L.Place

/-- The names that a template binds, or that have a meaning of their own somewhere in it. -/
def bound (t : L.Tree) : List Text := (L.mentions t).flatMap Mention.bound

end Language

/-! ## Actions -/

namespace Template.Action

variable {Tree Memory α : Type}

/-- The action that fails. -/
def fail (f : Failure) : Host.Action Tree Memory α := throw f

/-- What has been computed without a store. -/
def of (result : Except Failure α) : Host.Action Tree Memory α := fun st => (result, st)

/-- Puts out text. -/
def put (text : Text) : Host.Action Tree Memory Unit :=
  modify fun st => { st with written := text :: st.written }

/-- Runs an action and holds back what it puts out.  What a failing action has put out is lost. -/
def captured (a : Host.Action Tree Memory Unit) : Host.Action Tree Memory Text := fun st =>
  match a { st with written := [] } with
  | (.ok (), st') => (.ok st'.output, { st' with written := st.written })
  | (.error f, st') => (.error f, { st' with written := st.written })

/-- Runs an action, and another one if it fails with a failure. -/
def recovering (a : Host.Action Tree Memory α) (other : Failure → Host.Action Tree Memory α) :
    Host.Action Tree Memory α := fun st =>
  match a st with
  | (.ok v, st') => (.ok v, st')
  | (.error f, st') => other f st'

/-- Runs an action and gives its failure as a result. -/
def attempt (a : Host.Action Tree Memory α) : Host.Action Tree Memory (Except Failure α) := fun st =>
  match a st with
  | (result, st') => (.ok result, st')

/-- Writes an event into the journal. -/
def note (e : Event Tree) : Host.Action Tree Memory Unit :=
  modify fun st => { st with owned := { st.owned with journal := e :: st.owned.journal } }

/-- Calls a function of the engine. -/
def callFunction (number : Nat) (arguments : List Value) : Host.Action Tree Memory Value := do
  match (← get).owned.functions[number]? with
  | none => fail (.notCallable "function")
  | some (f, calls) =>
    modify fun st =>
      { st with owned := { st.owned with functions := st.owned.functions.set! number (f, calls + 1) } }
    of (f.run calls arguments)

/-- Calls something that takes no arguments by names. -/
def unnamed (a : Arguments) (act : List Value → Host.Action Tree Memory α) :
    Host.Action Tree Memory α :=
  match a.named with
  | [] => act a.placed
  | (n, _) :: _ => fail (.arguments ("unexpected keyword argument " ++ Text.quoted n))

end Template.Action

end ComponentTags
