/-
# Names of blocks

Blocks keep variables of their own: a template, the body of a macro or of a loop, a `with` block and a
`set` block.  A variable belongs to the innermost block that sets it anywhere, even if that happens
further down.  It begins with the value that the name has outside the block if the name is used before
it is set, if only some branch of a choice sets it, or if the blocks around use the name too;
otherwise it begins without a value.
-/
import ComponentTags.Template.Syntax

namespace ComponentTags.Template

/-! ## Names in expressions -/

mutual

/-- The names that an expression reads. -/
def Expr.names : Expr → List Text
  | .literal _ | .noAlternative _ => []
  | .name n => [n]
  | .list items | .tuple items | .concat items => namesOfItems items
  | .dict entries => namesOfEntries entries
  | .member owner _ => owner.names
  | .item owner key => owner.names ++ key.names
  | .slice owner start stop step => owner.names ++ start.names ++ stop.names ++ step.names
  | .call callee arguments => callee.names ++ namesOfArguments arguments
  | .filter subject _ arguments _ | .test subject _ arguments _ =>
    subject.names ++ namesOfArguments arguments
  | .signed _ operand | .negation operand => operand.names
  | .binary _ left right | .both left right | .either left right => left.names ++ right.names
  | .compare first others => first.names ++ namesOfOthers others
  | .choice condition yes no => condition.names ++ yes.names ++ no.names

/-- The names that several expressions read. -/
def namesOfItems : List Expr → List Text
  | [] => []
  | e :: rest => e.names ++ namesOfItems rest

/-- The names that the entries of a dictionary read. -/
def namesOfEntries : List (Expr × Expr) → List Text
  | [] => []
  | (k, v) :: rest => k.names ++ v.names ++ namesOfEntries rest

/-- The names that arguments read. -/
def namesOfArguments : List (Passing × Expr) → List Text
  | [] => []
  | (_, e) :: rest => e.names ++ namesOfArguments rest

/-- The names that the other values of a comparison read. -/
def namesOfOthers : List (Comparison × Expr) → List Text
  | [] => []
  | (_, e) :: rest => e.names ++ namesOfOthers rest

end

/-! ## Names in blocks -/

/-- What a block does with names. -/
structure Names where
  /-- The names that it uses. -/
  used : List Text := []
  /-- The names that it sets, and whether each begins with its value from outside. -/
  set : Table Text Bool := []
deriving DecidableEq, Repr

namespace Names

/-- The names of a block with some parameters. -/
def ofParameters (parameters : List Text) : Names where
  used := parameters
  set := Table.ofEntries (parameters.map fun n => (n, false))

/-- Some names are read. -/
def read (names : List Text) (s : Names) : Names := { s with used := names ++ s.used }

/-- A name is set in a block inside of blocks that use the names `outer`. -/
def store (outer : List Text) (s : Names) (n : Text) : Names :=
  if s.set.has n then s
  else
    { used := n :: s.used
      set := Table.set n (s.used.contains n || outer.contains n) s.set }

/-- The names of a block after a choice between several branches.  What only the branches set begins
with its value from outside. -/
def merge (s : Names) (branches : List Names) : Names where
  used := branches.flatMap Names.used
  set := (branches.flatMap fun b => b.set.keys).foldl
    (fun t n => if Table.has n t then t else Table.set n true t) s.set

mutual

/-- A target is set. -/
def target (outer : List Text) (s : Names) : Target → Names
  | .name n _ => s.store outer n
  | .tuple parts => targets outer s parts
  | .member owner _ => s.read [owner]

/-- Several targets are set. -/
def targets (outer : List Text) (s : Names) : List Target → Names
  | [] => s
  | t :: rest => targets outer (s.target outer t) rest

end

mutual

/-- A statement runs.  The blocks inside of it have names of their own. -/
def statement (outer : List Text) (s : Names) : Statement → Names
  | .text _ => s
  | .output e => s.read e.names
  | .set t value => (s.read value.names).target outer t
  | .setBlock t _ _ => s.target outer t
  | .choice condition body others otherwise =>
    let s := s.read condition.names
    s.merge [s.statements outer body, s.cases outer others, s.statements outer otherwise]
  | .loop _ items _ _ _ => s.read items.names
  | .scope assignments _ => s.read (assignments.flatMap fun (_, e) => e.names)
  | .define n _ _ _ => s.store outer n

/-- Several statements run. -/
def statements (outer : List Text) (s : Names) : List Statement → Names
  | [] => s
  | st :: rest => statements outer (s.statement outer st) rest

/-- The other cases of a choice are tried. -/
def cases (outer : List Text) (s : Names) : List (Expr × List Statement) → Names
  | [] => s
  | (condition, body) :: rest =>
    let s := s.read condition.names
    cases outer (s.merge [s.statements outer body]) rest

end

end Names

end ComponentTags.Template
