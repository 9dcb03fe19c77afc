/-
# The store of a run

What is remembered of the templates that run: the variables of their blocks and the macros they define.  The
blocks of a run are known by number, because a macro sees the variables of the blocks around it as they are
when it is called.

Statements and expressions are actions on a store.  An action that fails leaves the store as it was at
the failure, so that what was put out before is not lost.
-/
import ComponentTags.Template.Names

namespace ComponentTags.Template

/-- The variables of a block. -/
structure Frame where
  /-- The variables; those that are not set yet have no value. -/
  cells : Table Text (Option Value) := []
  /-- What the loops that belong to the block have set in their last round. -/
  loopVariables : Table Text Value := []

/-- A template that runs. -/
structure Run where
  /-- The template. -/
  tree : List Statement
  /-- The variables that the template was given. -/
  given : Table Text Value
  /-- The blocks that were entered, that of the whole template first. -/
  frames : Array Frame := #[]

/-- Where a statement or an expression stands in a running template. -/
structure Place where
  /-- The run. -/
  run : Nat
  /-- The blocks around the place, the innermost first. -/
  frames : List Nat
  /-- The names that these blocks use. -/
  used : List Text
  /-- The innermost block of a template or a macro. -/
  base : Nat
  /-- Whether the innermost block is the body of a loop. -/
  inLoop : Bool

/-- A macro, together with the place of its definition. -/
structure Macro where
  /-- The parameters. -/
  parameters : List Parameter
  /-- The body. -/
  body : List Statement
  /-- The place of the definition. -/
  place : Place

/-- What is remembered of the templates that run. -/
structure Memory where
  /-- The macros. -/
  macros : Array Macro := #[]
  /-- The templates that were started. -/
  runs : Array Run := #[]

/-- What a running template can change. -/
abbrev Store := Host.Store (List Statement) Memory

/-- Something that runs on a store and gives an `α` or fails. -/
abbrev Action (α : Type) := Host.Action (List Statement) Memory α

/-- What a call does, given where it stands. -/
abbrev Caller := Host.Caller (List Statement) Memory Place

namespace Memory

/-- The template that runs at a place. -/
def running (m : Memory) (p : Place) : Running (List Statement) :=
  match m.runs[p.run]? with
  | some r => ⟨r.tree, r.given⟩
  | none => ⟨[], []⟩

/-- A block of a run. -/
def frame? (m : Memory) (run number : Nat) : Option Frame :=
  (m.runs[run]?).bind fun r => r.frames[number]?

/-- The variable of a name in the innermost of some blocks of a run that has one. -/
def cell? (m : Memory) (run : Nat) (frames : List Nat) (n : Text) : Option (Option Value) :=
  frames.findSome? fun i => (m.frame? run i).bind fun f => f.cells.get? n

/-- The value of a name outside all blocks. -/
def global? (m : Memory) (s : Setting) (p : Place) (n : Text) : Option Value :=
  ((m.runs[p.run]?).bind fun r => r.given.get? n) <|> s.globals.get? n

/-- The value of a name. -/
def value? (m : Memory) (s : Setting) (p : Place) (n : Text) : Option Value :=
  match m.cell? p.run p.frames n with
  | some v => v
  | none => m.global? s p n

/-- The value of a name for a function that is called: such functions do not see the variables of
blocks, except those of the whole template and those that a loop has set in this round. -/
def lookUp? (m : Memory) (s : Setting) (p : Place) (n : Text) : Option Value :=
  let ofLoop :=
    if p.inLoop then (m.frame? p.run p.base).bind fun f => f.loopVariables.get? n else none
  ofLoop <|> (m.cell? p.run [0] n).join <|> m.global? s p n

end Memory

namespace Action

/-! ## Variables -/

/-- The value of a name. -/
def value? (s : Setting) (p : Place) (n : Text) : Action (Option Value) := do
  return (← get).memory.value? s p n

/-- Changes a run. -/
def changeRun (number : Nat) (change : Run → Run) : Action Unit :=
  modify fun st => { st with memory.runs := st.memory.runs.modify number change }

/-- The kinds of blocks. -/
inductive BlockKind where
  /-- The block of a template or a macro. -/
  | whole
  /-- The body of a loop. -/
  | loop
  /-- Another block. -/
  | inner
deriving DecidableEq, Repr

/-- Enters a block, in which some parameters have values already. -/
def enter (s : Setting) (p : Place) (kind : BlockKind) (names : Names) (given : Table Text Value) :
    Action Place := do
  let cells ← names.set.mapM fun (n, fromOutside) => do
    match given.get? n with
    | some v => return (n, some v)
    | none => return (n, ← if fromOutside then value? s p n else pure none)
  let number := (((← get).memory.runs[p.run]?).map fun r => r.frames.size).getD 0
  changeRun p.run fun r => { r with frames := r.frames.push { cells := cells } }
  return {
    run := p.run
    frames := number :: p.frames
    used := names.used ++ p.used
    base := if kind = .whole then number else p.base
    inLoop := kind = .loop }

/-- Changes a block of a run. -/
def changeFrame (run number : Nat) (change : Frame → Frame) : Action Unit :=
  changeRun run fun r => { r with frames := r.frames.modify number change }

/-- Gives a variable of the innermost block a value. -/
def define (p : Place) (n : Text) (v : Value) : Action Unit :=
  match p.frames with
  | [] => return
  | number :: _ =>
    changeFrame p.run number fun f => { f with cells := Table.set n (some v) f.cells }

/-- Gives variables of the innermost block values.  In a loop, functions see them too. -/
def assign (p : Place) (values : Table Text Value) : Action Unit := do
  values.forM fun (n, v) => define p n v
  if p.inLoop then
    changeFrame p.run p.base fun f => { f with loopVariables := f.loopVariables.setAll values }

/-- Begins a round of a loop, in which no variable has been set yet. -/
def beginRound (p : Place) : Action Unit :=
  changeFrame p.run p.base fun f => { f with loopVariables := [] }

/-! ## Macros and templates -/

/-- Adds a macro and gives its number. -/
def addMacro (m : Macro) : Action Nat := do
  let number := (← get).memory.macros.size
  modify fun st => { st with memory.macros := st.memory.macros.push m }
  return number

/-- Starts a template with some variables. -/
def begin (s : Setting) (statements : List Statement) (names : Names) (given : Table Text Value) :
    Action Place := do
  let number := (← get).memory.runs.size
  modify fun st =>
    { st with memory.runs := st.memory.runs.push { tree := statements, given := given } }
  enter s { run := number, frames := [], used := [], base := 0, inLoop := false } .whole names []

end Action

end ComponentTags.Template
