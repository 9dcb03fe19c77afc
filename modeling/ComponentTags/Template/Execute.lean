/-
# Executing statements

What a statement does at a place of a running template.  A macro, a `set` block and a nested component
hold back what they put out until they are complete; everything else is put out at once.
-/
import ComponentTags.Template.Evaluate

namespace ComponentTags.Template

/-! ## Assigning -/

/-- The parts of a value that is taken apart into `count` parts. -/
def unpacked (count : Nat) (v : Value) : Except Failure (List Value) :=
  match v with
  | .undefined true reason => .error (.undefinedUse reason)
  | v =>
    match v.items with
    | .error _ => .error (.notUnpackable v.typeName)
    | .ok parts =>
      if parts.length < count then .error (.tooFewParts count parts.length)
      else if count < parts.length then .error (.tooManyParts count)
      else .ok parts

/-- The failure to set an attribute. -/
def noAttributeTarget : Failure :=
  .thrown "TemplateRuntimeError" "cannot assign attribute on non-namespace object"

mutual

/-- The variables that a target gets from a value. -/
def Target.bind : Target → Value → Except Failure (Table Text Value)
  | .name n _, v => .ok [(n, v)]
  | .tuple parts, v =>
    match unpacked parts.length v with
    | .error f => .error f
    | .ok vs => bindTargets parts vs
  | .member .., _ => .error noAttributeTarget

/-- The variables that several targets get from as many values. -/
def bindTargets : List Target → List Value → Except Failure (Table Text Value)
  | t :: ts, v :: vs => do
    let first ← t.bind v
    return Table.setAll first (← bindTargets ts vs)
  | _, _ => .ok []

end

/-! ## Blocks -/

/-- The names of a whole template. -/
def templateNames (statements : List Statement) : Names := ({} : Names).statements [] statements

/-- The names of the body of a macro. -/
def macroNames (outer : List Text) (parameters : List Parameter) (body : List Statement) : Names :=
  let own := parameters.map Parameter.name
  let names := Names.ofParameters (own ++ specialsOf own (mentionsAll body))
  let names := names.read (parameters.flatMap fun p => (p.default.map Expr.names).getD [])
  names.statements outer body

/-- The names of a block in which targets are set to begin with. -/
def blockNames (outer parameters : List Text) (body : List Statement) : Names :=
  (Names.ofParameters parameters).statements outer body

/-- A text that was put out in a block, as a value. -/
def Setting.content (s : Setting) (t : Text) : Value := if s.escapes then .markup t else .text t

/-- Puts out a value. -/
def emit (s : Setting) (v : Value) : Action Unit := do
  Action.put (← Action.of (if s.escapes then v.escaped else v.display))

/-- Applies filters to the content of a block. -/
def applyFilters (s : Setting) (call : Caller) (p : Place) (content : Value) :
    List BlockFilter → Action Value
  | [] => return content
  | f :: rest => do
    let v ← Action.of (Filter.apply s f.name content
      (← evalArguments s call p {} f.arguments))
    applyFilters s call p v rest

/-- Whether an item meets conditions. -/
def meets (s : Setting) (call : Caller) (p : Place) (target : Target) (conditions : List Expr)
    (v : Value) : Action Bool := do
  let given ← Action.of (target.bind v)
  let inner ← Action.enter s p .inner (blockNames p.used given.keys []) given
  conditions.allM fun e => do Action.of (← e.eval s call inner).decide

/-- The items that meet conditions, up to the first for which this cannot be said; the failure is given
too. -/
def selected (s : Setting) (call : Caller) (p : Place) (target : Target) (conditions : List Expr) :
    List Value → Action (List Value × Option Failure)
  | [] => return ([], none)
  | v :: rest => do
    match ← Action.attempt (meets s call p target conditions v) with
    | .error f => return ([], some f)
    | .ok isMet =>
      let (others, f) ← selected s call p target conditions rest
      return (if isMet then v :: others else others, f)

/-- The values of the assignments of a `with` block. -/
def evalAssignments (s : Setting) (call : Caller) (p : Place) :
    List (Target × Expr) → Action (Table Text Value)
  | [] => return []
  | (t, e) :: rest => do
    let first ← Action.of (t.bind (← e.eval s call p))
    return Table.setAll first (← evalAssignments s call p rest)

/-! ## Statements -/

mutual

/-- Executes a statement. -/
def Statement.exec (s : Setting) (call : Caller) (p : Place) : Statement → Action Unit
  | .text t => Action.put t
  | .output e => do emit s (← e.eval s call p)
  | .set target value => do
    let v ← value.eval s call p
    Action.assign p (← Action.of (target.bind v))
  | .setBlock target filters body => do
    let inner ← Action.enter s p .inner (blockNames p.used [] body) []
    let t ← Action.captured (execAll s call inner body)
    let v ← applyFilters s call inner (s.content t) filters
    let v ← if s.escapes then pure (.markup (← Action.of v.display)) else pure v
    Action.assign p (← Action.of (target.bind v))
  | .choice condition body others otherwise => do
    if ← Action.of (← condition.eval s call p).decide then execAll s call p body
    else if ← execCases s call p others then return
    else execAll s call p otherwise
  | .loop target items conditions body otherwise => do
    let all ← Action.of (← items.eval s call p).items
    let (kept, failure) ←
      if conditions.isEmpty then pure (all, none) else selected s call p target conditions all
    kept.zipIdx.forM fun (v, i) => do
      let given := Table.set loopName (.loop i kept) (← Action.of (target.bind v))
      let inner ← Action.enter s p .loop (blockNames p.used given.keys body) given
      Action.beginRound inner
      execAll s call inner body
    match failure with
    | some f => Action.fail f
    | none =>
      if kept.isEmpty then
        let inner ← Action.enter s p .inner (blockNames p.used [] otherwise) []
        execAll s call inner otherwise
  | .scope assignments body => do
    let given ← evalAssignments s call p assignments
    let inner ← Action.enter s p .inner (blockNames p.used given.keys body) given
    execAll s call inner body
  | .define n parameters body _ => do
    let number ← Action.addMacro ⟨parameters, body, p⟩
    Action.define p n (.callable (.macroCall number n))

/-- Executes several statements. -/
def execAll (s : Setting) (call : Caller) (p : Place) : List Statement → Action Unit
  | [] => return
  | st :: rest => do
    st.exec s call p
    execAll s call p rest

/-- Executes the first case whose condition holds, and says whether there is one. -/
def execCases (s : Setting) (call : Caller) (p : Place) :
    List (Expr × List Statement) → Action Bool
  | [] => return false
  | (condition, body) :: rest => do
    if ← Action.of (← condition.eval s call p).decide then
      execAll s call p body
      return true
    else execCases s call p rest

end

/-- Runs a template with some variables. -/
def execTemplate (s : Setting) (call : Caller) (statements : List Statement)
    (given : Table Text Value) : Action Unit := do
  let p ← Action.begin s statements (templateNames statements) given
  execAll s call p statements

/-! ## Macros -/

/-- Gives the parameters that a call has left out their defaults. -/
def completeParameters (s : Setting) (call : Caller) (p : Place) :
    List (Parameter × Option Value) → Action Unit
  | [] => return
  | (_, some _) :: rest => completeParameters s call p rest
  | (parameter, none) :: rest => do
    let v ← match parameter.default with
      | some e => e.eval s call p
      | none =>
        pure (s.missing.reason ("parameter " ++ Text.quoted parameter.name ++ " was not provided"))
    Action.define p parameter.name v
    completeParameters s call p rest

/-- The values that a macro gets for a call. -/
structure MacroValues where
  /-- The values of its parameters, `none` for those that the call has left out. -/
  parameters : List (Option Value)
  /-- The values of the names with a meaning of their own. -/
  specials : Table Text Value

/-- The failure that a macro gets one value too many. -/
def surplusValue (count : Nat) : Failure :=
  .arguments ("macro() takes " ++ Text.ofNat count ++ " positional argument" ++
    (if count = 1 then [] else ['s']) ++ " but " ++ Text.ofNat (count + 1) ++ " were given")

/-- The values that a macro of a name gets for a call, given its parameters and the special names that are
read in its body.  What no parameter takes is a failure unless the body reads a special name for it. -/
def Arguments.forMacro (a : Arguments) (s : Setting) (name : Text) (parameters used : List Text) :
    Except Failure MacroValues := do
  let what := "macro " ++ Text.quoted name
  let remaining := parameters.drop a.placed.length
  let values := (a.placed.take parameters.length).map some ++ remaining.map fun n => a.named.get? n
  let others : Table Text Value := a.named.filter fun (n, _) => !remaining.contains n
  let more := a.placed.drop parameters.length
  -- a parameter takes the caller unless a positional argument has taken the parameter
  let hasCaller :=
    if remaining.isEmpty then parameters.contains callerName else remaining.contains callerName
  let takesCaller := used.contains callerName && !hasCaller
  let takesOthers := used.contains othersName && !parameters.contains othersName
  let takesMore := used.contains moreName && !parameters.contains moreName
  let caller : Value :=
    match others.get? callerName with
    | none | some .none => s.missing.reason "No caller defined"
    | some v => v
  let others : Table Text Value := if takesCaller then others.erase callerName else others
  if !takesOthers then
    if others.has callerName then
      throw (.arguments (what ++ " was invoked with two values for the special caller argument. " ++
        "This is most likely a bug."))
    if let (n, _) :: _ := others then
      throw (.arguments (what ++ " takes no keyword argument " ++ Text.quoted n))
  if !takesMore && !more.isEmpty then
    throw (.arguments (what ++ " takes not more than " ++ Text.ofNat parameters.length ++
      " argument(s)"))
  if takesCaller && parameters.contains callerName then
    throw (surplusValue (parameters.length + takesOthers.toNat + takesMore.toNat))
  let given (isTaken : Bool) (n : Text) (v : Value) : Table Text Value := if isTaken then [(n, v)] else []
  return {
    parameters := values
    specials := given takesCaller callerName caller ++ given takesOthers othersName (.ofLocals others) ++
      given takesMore moreName (.tuple more) }

/-- Calls a macro. -/
def callMacro (s : Setting) (call : Caller) (number : Nat) (name : Text) (a : Arguments) :
    Action Value := do
  match (← get).memory.macros[number]? with
  | none => Action.fail (.notCallable "Macro")
  | some m =>
    let vs ← Action.of (a.forMacro s name (m.parameters.map Parameter.name)
      (readFirst specialNames (mentionsAll m.body)))
    let entries := m.parameters.zip vs.parameters
    let given := entries.filterMap fun (parameter, v) => v.map fun v => (parameter.name, v)
    let p ← Action.enter s m.place .whole (macroNames m.place.used m.parameters m.body)
      (given ++ vs.specials)
    completeParameters s call p entries
    return s.content (← Action.captured (execAll s call p m.body))

end ComponentTags.Template
