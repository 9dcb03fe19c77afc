/-
# Checking statements

What can be said against a template before it runs: it applies a filter or a test that does not exist,
or it sets the name `loop` inside a loop.  The part of a template that a condition decides about may
apply unknown filters and tests; they are failures only when it comes to them.
-/
import ComponentTags.Template.Mentions
import ComponentTags.Template.Statement

namespace ComponentTags.Template

/-- The filters. -/
def filterNames : List Text :=
  ["upper", "trim", "join", "default", "d", "length", "count", "safe", "escape", "e"]

/-- The tests. -/
def testNames : List Text := ["defined", "undefined", "none"]

/-- Rejects a filter that does not exist, unless a condition decides about it. -/
def checkFilter (isConditional : Bool) (name : Text) (line : Nat) : Except Rejection Unit :=
  if isConditional || filterNames.contains name then .ok ()
  else .error ⟨"No filter named " ++ Text.quoted name ++ ".", line⟩

/-- Rejects a test that does not exist, unless a condition decides about it. -/
def checkTest (isConditional : Bool) (name : Text) (line : Nat) : Except Rejection Unit :=
  if isConditional || testNames.contains name then .ok ()
  else .error ⟨"No test named " ++ Text.quoted name ++ ".", line⟩

/-! ## Expressions -/

mutual

/-- Checks an expression. -/
def Expr.check (isConditional : Bool) : Expr → Except Rejection Unit
  | .literal _ | .name _ | .noAlternative _ => .ok ()
  | .list items | .tuple items | .concat items => checkAll isConditional items
  | .dict entries => checkEntries isConditional entries
  | .member owner _ => owner.check isConditional
  | .item owner key => do
    owner.check isConditional
    key.check isConditional
  | .slice owner start stop step => do
    owner.check isConditional
    start.check isConditional
    stop.check isConditional
    step.check isConditional
  | .call callee arguments => do
    callee.check isConditional
    checkArguments isConditional arguments
  | .filter subject name arguments line => do
    checkFilter isConditional name line
    subject.check isConditional
    checkArguments isConditional arguments
  | .test subject name arguments line => do
    checkTest isConditional name line
    subject.check isConditional
    checkArguments isConditional arguments
  | .signed _ operand | .negation operand => operand.check isConditional
  | .binary _ left right | .both left right | .either left right => do
    left.check isConditional
    right.check isConditional
  | .compare first others => do
    first.check isConditional
    checkOthers isConditional others
  | .choice condition yes no => do
    yes.check true
    condition.check true
    no.check true

/-- Checks several expressions. -/
def checkAll (isConditional : Bool) : List Expr → Except Rejection Unit
  | [] => .ok ()
  | e :: rest => do
    e.check isConditional
    checkAll isConditional rest

/-- Checks the entries of a dictionary. -/
def checkEntries (isConditional : Bool) : List (Expr × Expr) → Except Rejection Unit
  | [] => .ok ()
  | (k, v) :: rest => do
    k.check isConditional
    v.check isConditional
    checkEntries isConditional rest

/-- Checks the arguments of a call. -/
def checkArguments (isConditional : Bool) : List (Passing × Expr) → Except Rejection Unit
  | [] => .ok ()
  | (_, e) :: rest => do
    e.check isConditional
    checkArguments isConditional rest

/-- Checks the values that a value is compared with. -/
def checkOthers (isConditional : Bool) : List (Comparison × Expr) → Except Rejection Unit
  | [] => .ok ()
  | (_, e) :: rest => do
    e.check isConditional
    checkOthers isConditional rest

end

/-! ## Statements -/

/-- Checks the filters of a block, the last of which is applied to the result of the others. -/
def checkBlockFilters (filters : List BlockFilter) : Except Rejection Unit := do
  filters.reverse.forM fun f => checkFilter false f.name f.line
  filters.forM fun f => checkArguments false f.arguments

mutual

/-- The variables that a target sets, with their lines. -/
def Target.places : Target → List (Text × Nat)
  | .name n line => [(n, line)]
  | .tuple parts => placesOfTargets parts
  | .member .. => []

/-- The variables that several targets set, with their lines. -/
def placesOfTargets : List Target → List (Text × Nat)
  | [] => []
  | t :: rest => t.places ++ placesOfTargets rest

end

mutual

/-- The variables that a statement sets anywhere, with their lines. -/
def Statement.places : Statement → List (Text × Nat)
  | .text _ | .output _ => []
  | .set target _ => target.places
  | .setBlock target _ body => target.places ++ placesOfAll body
  | .choice _ body others otherwise =>
    placesOfAll body ++ placesOfOthers others ++ placesOfAll otherwise
  | .loop target _ _ body otherwise => target.places ++ placesOfAll body ++ placesOfAll otherwise
  | .scope _ body => placesOfAll body
  | .define _ _ body _ => placesOfAll body

/-- The variables that several statements set anywhere. -/
def placesOfAll : List Statement → List (Text × Nat)
  | [] => []
  | s :: rest => s.places ++ placesOfAll rest

/-- The variables that the other cases of a choice set anywhere. -/
def placesOfOthers : List (Expr × List Statement) → List (Text × Nat)
  | [] => []
  | (_, body) :: rest => placesOfAll body ++ placesOfOthers rest

end

/-- Rejects a loop in which the name of the loop's state is set. -/
def checkLoopName (s : Statement) : Except Rejection Unit :=
  match s.places.find? fun (n, _) => n = loopName with
  | some (_, line) => .error ⟨"Can't assign to special loop variable in for-loop", line⟩
  | none => .ok ()

/-- Rejects a macro that has the special name of its caller as a parameter without a default and reads it. -/
def checkCaller (parameters : List Parameter) (body : List Statement) (line : Nat) :
    Except Rejection Unit :=
  let isLacking := parameters.any fun p => p.name = callerName && p.default.isNone
  if isLacking && (readFirst specialNames (mentionsAll body)).contains callerName then
    .error ⟨"When defining macros or call blocks the special \"caller\" argument must be omitted " ++
      "or be given a default.", line⟩
  else .ok ()

mutual

/-- Checks a statement. -/
def Statement.check (isConditional : Bool) : Statement → Except Rejection Unit
  | .text _ => .ok ()
  | .output e => e.check isConditional
  | .set _ value => value.check isConditional
  | .setBlock _ filters body => do
    checkStatements false body
    checkBlockFilters filters
  | .choice condition body others otherwise => do
    condition.check true
    checkStatements true body
    checkCases others
    checkStatements true otherwise
  | .loop target items conditions body otherwise => do
    checkAll false conditions
    checkLoopName (.loop target items conditions body otherwise)
    items.check isConditional
    checkStatements false body
    checkStatements false otherwise
  | .scope assignments body => do
    assignments.forM fun (_, e) => e.check isConditional
    checkStatements false body
  | .define _ parameters body line => do
    checkCaller parameters body line
    parameters.forM fun p => p.default.forM fun e => e.check false
    checkStatements false body

/-- Checks several statements. -/
def checkStatements (isConditional : Bool) : List Statement → Except Rejection Unit
  | [] => .ok ()
  | s :: rest => do
    s.check isConditional
    checkStatements isConditional rest

/-- Checks the other cases of a choice. -/
def checkCases : List (Expr × List Statement) → Except Rejection Unit
  | [] => .ok ()
  | (condition, body) :: rest => do
    condition.check true
    checkStatements true body
    checkCases rest

end

/-- The statements of a template that is well formed and applies what exists. -/
def accept (d : Delimiters) (template : Text) : Except Rejection (List Statement) := do
  let statements ← read d template
  checkStatements false statements
  return statements

end ComponentTags.Template
