/-
# The template language

The statements and expressions of templates after their component tags are lowered.  Text and values
are put out; names are set, in loops, in blocks and as parameters of macros; and expressions compute
with values.
-/
import ComponentTags.Template.Language

namespace ComponentTags.Template

/-- The constants of the template language. -/
inductive Literal where
  /-- The absent value. -/
  | none
  /-- A truth value. -/
  | bool (b : Bool)
  /-- A whole number. -/
  | int (n : Nat)
  /-- A binary fraction. -/
  | real (x : Float)
  /-- A text. -/
  | text (t : Text)

/-- The value of a constant. -/
def Literal.value : Literal → Value
  | none => .none
  | bool b => .bool b
  | int n => .int n
  | real x => .real x
  | text t => .text t

/-- The comparisons. -/
inductive Comparison where
  /-- Both values are equal. -/
  | equal
  /-- The values are not equal. -/
  | unequal
  /-- The values are in an order. -/
  | order (o : Value.Order)
  /-- The first value is among the items of the second. -/
  | among
  /-- The first value is not among the items of the second. -/
  | notAmong
deriving DecidableEq, Repr

/-- How an argument is passed. -/
inductive Passing where
  /-- By its place. -/
  | placed
  /-- By a name. -/
  | named (name : Text)
  /-- As many arguments by their places. -/
  | spread
  /-- As many arguments by names. -/
  | spreadNamed
deriving DecidableEq, Repr

/-- An expression. -/
inductive Expr where
  /-- A constant. -/
  | literal (l : Literal)
  /-- A variable. -/
  | name (n : Text)
  /-- A list. -/
  | list (items : List Expr)
  /-- A tuple. -/
  | tuple (items : List Expr)
  /-- A dictionary. -/
  | dict (entries : List (Expr × Expr))
  /-- An attribute of a value. -/
  | member (owner : Expr) (name : Text)
  /-- An item of a value. -/
  | item (owner key : Expr)
  /-- A slice of a value. -/
  | slice (owner start stop step : Expr)
  /-- A call. -/
  | call (callee : Expr) (arguments : List (Passing × Expr))
  /-- A filter applied to a value. -/
  | filter (subject : Expr) (name : Text) (arguments : List (Passing × Expr)) (line : Nat)
  /-- A test of a value. -/
  | test (subject : Expr) (name : Text) (arguments : List (Passing × Expr)) (line : Nat)
  /-- A value with a sign in front. -/
  | signed (negative : Bool) (operand : Expr)
  /-- An operator on two values. -/
  | binary (operator : Value.Operator) (left right : Expr)
  /-- What several values are shown as, joined. -/
  | concat (parts : List Expr)
  /-- A chain of comparisons. -/
  | compare (first : Expr) (others : List (Comparison × Expr))
  /-- The second value if the first counts as true. -/
  | both (left right : Expr)
  /-- The second value unless the first counts as true. -/
  | either (left right : Expr)
  /-- Whether a value does not count as true. -/
  | negation (operand : Expr)
  /-- One value or another. -/
  | choice (condition yes no : Expr)
  /-- What a choice without an alternative gives. -/
  | noAlternative (line : Nat)
deriving Inhabited

/-- What values are assigned to. -/
inductive Target where
  /-- A variable. -/
  | name (n : Text) (line : Nat)
  /-- Several targets for the parts of a value. -/
  | tuple (parts : List Target)
  /-- An attribute of a variable. -/
  | member (owner name : Text)
deriving Inhabited

mutual

/-- The variables that a target sets. -/
def Target.names : Target → List Text
  | .name n _ => [n]
  | .tuple parts => namesOfAll parts
  | .member .. => []

/-- The variables that several targets set. -/
def namesOfAll : List Target → List Text
  | [] => []
  | t :: rest => t.names ++ namesOfAll rest

end

/-- A filter to be applied to a block. -/
structure BlockFilter where
  /-- The name of the filter. -/
  name : Text
  /-- Its arguments. -/
  arguments : List (Passing × Expr)
  /-- The line that it stands in. -/
  line : Nat

/-- A parameter of a macro. -/
structure Parameter where
  /-- The name of the parameter. -/
  name : Text
  /-- Its default. -/
  default : Option Expr

/-- A statement. -/
inductive Statement where
  /-- Puts out text. -/
  | text (content : Text)
  /-- Puts out a value. -/
  | output (value : Expr)
  /-- Sets variables to a value. -/
  | set (target : Target) (value : Expr)
  /-- Sets a variable to what a block puts out. -/
  | setBlock (target : Target) (filters : List BlockFilter) (body : List Statement)
  /-- Runs a block if a condition holds, and otherwise what is said for other cases. -/
  | choice (condition : Expr) (body : List Statement) (others : List (Expr × List Statement))
      (otherwise : List Statement)
  /-- Runs a block for every item that meets the conditions, or another one if there is none. -/
  | loop (target : Target) (items : Expr) (conditions : List Expr) (body otherwise : List Statement)
  /-- Runs a block with further variables. -/
  | scope (assignments : List (Target × Expr)) (body : List Statement)
  /-- Defines a macro. -/
  | define (name : Text) (parameters : List Parameter) (body : List Statement) (line : Nat)
deriving Inhabited

end ComponentTags.Template
