/-
# Waiting templates

A template that uses names of components that are not registered waits for them.  The graph of
waiting templates is kept from both ends: for every template the names it waits for, and for every
name the templates that wait for it.  Both lists are in the order in which the templates began to
wait; a template whose names change begins anew.
-/
import ComponentTags.Table
import ComponentTags.Text.Basic

namespace ComponentTags

/-- Which templates wait for which names. -/
structure Graph where
  /-- The names that a template waits for. -/
  pending : Table Text (List Text) := []
  /-- The templates that wait for a name. -/
  waiting : Table Text (List Text) := []
deriving DecidableEq, Repr

namespace Graph

/-- Whether a template waits for anything. -/
def contains (g : Graph) (template : Text) : Bool := g.pending.has template

/-- The names that a template waits for. -/
def pendingOf (g : Graph) (template : Text) : List Text := (g.pending.get? template).getD []

/-- The templates that wait for a name, in the order in which they began to wait. -/
def dependents (g : Graph) (name : Text) : List Text := (g.waiting.get? name).getD []

/-- A template no longer waits for a name.  A name that nothing waits for is forgotten. -/
def release (template : Text) (waiting : Table Text (List Text)) (name : Text) :
    Table Text (List Text) :=
  match waiting.get? name with
  | none => waiting
  | some templates =>
    match templates.filter (· ≠ template) with
    | [] => waiting.erase name
    | others => waiting.set name others

/-- A template waits for one more name. -/
def await (template : Text) (waiting : Table Text (List Text)) (name : Text) :
    Table Text (List Text) :=
  let templates := (waiting.get? name).getD []
  waiting.set name (if templates.contains template then templates else templates ++ [template])

/-- The graph in which a template waits for nothing. -/
def discard (g : Graph) (template : Text) : Graph where
  pending := g.pending.erase template
  waiting := (g.pendingOf template).foldl (release template) g.waiting

/-- The graph in which a template waits for some names and for nothing else. -/
def setPending (g : Graph) (template : Text) (names : List Text) : Graph :=
  let g := g.discard template
  match names.eraseDups with
  | [] => g
  | names =>
    { pending := g.pending.set template names
      waiting := names.foldl (await template) g.waiting }

/-- The graph in which several templates wait for other names than before. -/
def setAllPending (g : Graph) (results : Table Text (List Text)) : Graph :=
  results.foldl (fun graph result => graph.setPending result.1 result.2) g

/-- Compiles every template again that waits for a name, each in turn, and takes over what they wait
for now.  The graph changes only when all of them have been compiled. -/
def resolve {m : Type → Type} [Monad m] (g : Graph) (name : Text)
    (recompile : Text → m (List Text)) : m Graph := do
  let results ← (g.dependents name).mapM fun template => do return (template, ← recompile template)
  return g.setAllPending results

/-! ## Programs that keep a graph -/

/-- A program that keeps a graph and other things beside it, and gives an `α` or fails.  What was
changed before a failure stays changed. -/
abbrev Program (ε σ α : Type) := ExceptT ε (StateM (Graph × σ)) α

namespace Program

variable {ε σ α : Type}

/-- What a program does with the other things. -/
def beside (a : ExceptT ε (StateM σ) α) : Program ε σ α := fun (g, s) =>
  let (result, s') := a s
  (result, (g, s'))

/-- Compiles every template again that waits for a name, each in turn.  When all of them have been
compiled, takes over what they wait for now, one template after the other.  Gives those templates. -/
def resolve (name : Text) (recompile : Text → ExceptT ε (StateM σ) (List Text)) :
    Program ε σ (List Text) := do
  let dependents := (← get).1.dependents name
  let results ← dependents.mapM fun template => do return (template, ← beside (recompile template))
  results.forM fun (template, names) => modify fun (g, s) => (g.setPending template names, s)
  return dependents

end Program

end Graph

end ComponentTags
