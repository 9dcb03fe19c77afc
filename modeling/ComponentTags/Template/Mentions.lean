/-
# What templates do with names

The names that a template reads, sets, takes as parameters and defines, in the order in which they stand in
its syntax tree.  The calls and blocks that lowering writes are told apart from others.

In the body of a macro three names have a meaning of their own if they are read there and not set before: the
arguments that no parameter takes, and the macro of a block that calls this one.
-/
import ComponentTags.Template.Syntax

namespace ComponentTags.Template

/-- The variable that holds the state of the innermost loop. -/
def loopName : Text := "loop"

/-! ## What lowering writes -/

/-- Whether a variable is captured under its own name. -/
def isCapturedEntry : Expr × Expr → Bool
  | (.literal (.text n), .name m) => n = m
  | _ => false

/-- Whether an expression is what lowering writes for the context of a content. -/
def Expr.isCarrier : Expr → Bool
  | .literal .none => true
  | .name n => n = contextName
  | .call (.name n) [(.placed, .name this), (.placed, .name root), (.placed, .dict captured)] =>
    n = scopeFunction && this = thisName && root = rootName && captured.all isCapturedEntry
  | .call (.member (.name n) operation) [(.placed, .dict captured)] =>
    n = contextName && operation = "extend" && captured.all isCapturedEntry
  | _ => false

/-- Whether a call is one that lowering writes for a component. -/
def isCallout (callee : Expr) (arguments : List (Passing × Expr)) : Bool :=
  match callee, arguments with
  | .name n, [(.placed, _), (.placed, _), (.placed, _), (.placed, carrier)] =>
    n = renderFunction && carrier.isCarrier
  | _, _ => false

/-- Whether a macro is a block: its only parameter is the context. -/
def isBlock (parameters : List Parameter) : Bool :=
  match parameters with
  | [⟨n, none⟩] => n = contextName
  | _ => false

/-! ## Expressions -/

mutual

/-- What an expression does with names. -/
def Expr.mentions : Expr → List Mention
  | .literal _ | .noAlternative _ => []
  | .name n => [.reads n]
  | .list items | .tuple items | .concat items => mentionsOfItems items
  | .dict entries => mentionsOfEntries entries
  | .member owner _ => owner.mentions
  | .item owner key => owner.mentions ++ key.mentions
  | .slice owner start stop step =>
    owner.mentions ++ start.mentions ++ stop.mentions ++ step.mentions
  | .call callee arguments =>
    (if isCallout callee arguments then [.callsOut] else callee.mentions) ++
      mentionsOfArguments arguments
  | .filter subject _ arguments _ | .test subject _ arguments _ =>
    subject.mentions ++ mentionsOfArguments arguments
  | .signed _ operand | .negation operand => operand.mentions
  | .binary _ left right | .both left right | .either left right => left.mentions ++ right.mentions
  | .compare first others => first.mentions ++ mentionsOfOthers others
  | .choice condition yes no => condition.mentions ++ yes.mentions ++ no.mentions

/-- What several expressions do with names. -/
def mentionsOfItems : List Expr → List Mention
  | [] => []
  | e :: rest => e.mentions ++ mentionsOfItems rest

/-- What the entries of a dictionary do with names. -/
def mentionsOfEntries : List (Expr × Expr) → List Mention
  | [] => []
  | (k, v) :: rest => k.mentions ++ v.mentions ++ mentionsOfEntries rest

/-- What arguments do with names. -/
def mentionsOfArguments : List (Passing × Expr) → List Mention
  | [] => []
  | (_, e) :: rest => e.mentions ++ mentionsOfArguments rest

/-- What the other values of a comparison do with names. -/
def mentionsOfOthers : List (Comparison × Expr) → List Mention
  | [] => []
  | (_, e) :: rest => e.mentions ++ mentionsOfOthers rest

end

/-! ## Special names -/

/-- The macro of a block that calls a macro. -/
def callerName : Text := "caller"

/-- The arguments by names that no parameter takes. -/
def othersName : Text := "kwargs"

/-- The arguments by places that no parameter takes. -/
def moreName : Text := "varargs"

/-- The names that can have a meaning of their own in the body of a macro. -/
def specialNames : List Text := [callerName, othersName, moreName]

/-- Which of some names are read before they are set. -/
def readFirst (names : List Text) : List Mention → List Text
  | [] => []
  | .reads n :: rest =>
    if names.contains n then n :: readFirst (names.filter (· ≠ n)) rest else readFirst names rest
  | .binds n :: rest => readFirst (names.filter (· ≠ n)) rest
  | _ :: rest => readFirst names rest

/-- The names with a meaning of their own in the body of a macro.  A parameter of this name replaces it. -/
def specialsOf (parameters : List Text) (body : List Mention) : List Text :=
  let used := readFirst specialNames body
  specialNames.filter fun n => used.contains n && !parameters.contains n

/-! ## Statements -/

/-- What the parameters of a macro do with names. -/
def mentionsOfParameters (parameters : List Parameter) : List Mention :=
  parameters.map (Mention.binds ∘ Parameter.name) ++
    parameters.flatMap fun p => (p.default.map Expr.mentions).getD []

mutual

/-- What a statement does with names.  Setting an attribute sets no name. -/
def Statement.mentions : Statement → List Mention
  | .text _ => []
  | .output e => e.mentions
  | .set target value => target.names.map .binds ++ value.mentions
  | .setBlock target filters body =>
    target.names.map .binds ++ filters.flatMap (fun f => mentionsOfArguments f.arguments) ++
      mentionsAll body
  | .choice condition body others otherwise =>
    condition.mentions ++ mentionsAll body ++ mentionsOfCases others ++ mentionsAll otherwise
  | .loop target items conditions body otherwise =>
    .gives loopName :: target.names.map .binds ++ items.mentions ++ mentionsAll body ++
      mentionsAll otherwise ++ mentionsOfItems conditions
  | .scope assignments body =>
    (namesOfAll (assignments.map Prod.fst)).map .binds ++
      assignments.flatMap (fun a => a.2.mentions) ++ mentionsAll body
  | .define n parameters body _ =>
    let inner := mentionsAll body
    .defines n (isBlock parameters) ::
      (if isBlock parameters then [] else mentionsOfParameters parameters) ++
      (specialsOf (parameters.map Parameter.name) inner).map .gives ++ inner

/-- What several statements do with names. -/
def mentionsAll : List Statement → List Mention
  | [] => []
  | st :: rest => st.mentions ++ mentionsAll rest

/-- What other cases of a choice do with names. -/
def mentionsOfCases : List (Expr × List Statement) → List Mention
  | [] => []
  | (condition, body) :: rest => condition.mentions ++ mentionsAll body ++ mentionsOfCases rest

end

end ComponentTags.Template
