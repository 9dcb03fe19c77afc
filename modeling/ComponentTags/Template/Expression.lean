/-
# Reading expressions

The grammar of expressions, from the loosest binding to the tightest: the choice `a if c else b`,
`or`, `and`, `not`, comparisons, addition, joining with `~`, multiplication, powers, signs, and what
follows a value: attributes, items, calls, filters and tests.

Only brackets and the alternative of a choice lead back to whole expressions.  Every reader takes the
reader of whole expressions as `whole`, and `expression` closes the circle.
-/
import ComponentTags.Template.Reader

namespace ComponentTags.Template

namespace Expr

/-- What an expression is called when it cannot be assigned to. -/
def kindName : Expr → Text
  | literal _ => "const"
  | name _ => "name"
  | list _ => "list"
  | tuple _ => "tuple"
  | dict _ => "dict"
  | member .. => "getattr"
  | item .. | slice .. => "getitem"
  | call .. => "call"
  | filter .. => "filter"
  | test .. => "test"
  | signed negative _ => if negative then "neg" else "pos"
  | binary .add .. => "add"
  | binary .sub .. => "sub"
  | binary .mul .. => "mul"
  | binary .div .. => "div"
  | binary .floorDiv .. => "floordiv"
  | binary .mod .. => "mod"
  | binary .pow .. => "pow"
  | concat _ => "concat"
  | compare .. => "compare"
  | both .. => "and"
  | either .. => "or"
  | negation _ => "not"
  | choice .. | noAlternative _ => "condexpr"

end Expr

namespace Reader

/-- The readers of whole expressions; choices are read where the flag is set. -/
abbrev Whole := Bool → Reader Expr

/-! ## Values -/

/-- The constant that a name stands for. -/
def constant? (n : Text) : Option Literal :=
  if n = "true" || n = "True" then some (.bool true)
  else if n = "false" || n = "False" then some (.bool false)
  else if n = "none" || n = "None" then some .none
  else none

/-- Where a tuple without parentheses ends. -/
def isTupleEnd (isEnd : Lexeme → Bool) (l : Lexeme) : Bool :=
  match l with
  | .valueEnd | .blockEnd => true
  | l => l.isSign ")" || isEnd l

/-- Reads parts with commas between them up to the end of a tuple.  The flag says whether there was a
comma. -/
def tupleParts {α : Type} (isEnd : Lexeme → Bool) (part : Reader α) : Reader (List α × Bool) := do
  let (parts, isTuple, _) ← iterate (fun (parts, isTuple, goesOn) => do
    if !goesOn then return none
    if !parts.isEmpty then expectSign ","
    if isTupleEnd isEnd (← current).lexeme then return none
    let parts := parts ++ [← part]
    if (← current).lexeme.isSign "," then return some (parts, true, true)
    else return some (parts, isTuple, false)) ([], false, true)
  return (parts, isTuple)

/-- Rejects the absence of an expression. -/
def missing {α : Type} : Reader α := do
  reject ("Expected an expression, got " ++ Text.quoted (← current).lexeme.describe)

/-- Reads an expression or a tuple without parentheses. -/
def tupleOr (whole : Whole) (choices : Bool) (isEnd : Lexeme → Bool) : Reader Expr := do
  match ← tupleParts isEnd (whole choices) with
  | ([e], false) => return e
  | ([], false) => missing
  | (parts, _) => return .tuple parts

/-- Reads what stands between parentheses, of which the opening one has been taken. -/
def parenthesised (whole : Whole) : Reader Expr := do
  let inner ← tupleParts (fun _ => false) (whole true)
  expectSign ")"
  match inner with
  | ([e], false) => return e
  | (parts, _) => return .tuple parts

/-- Reads the strings behind a string, which it is joined with. -/
def moreStrings (first : Text) : Reader Text :=
  iterate (fun text => do
    match (← current).lexeme with
    | .string t =>
      let _ ← take
      return some (text ++ t)
    | _ => return none) first

/-- Reads an entry of a dictionary. -/
def entry (whole : Whole) : Reader (Expr × Expr) := do
  let key ← whole true
  expectSign ":"
  return (key, ← whole true)

/-- Reads a value without anything behind it. -/
def primary (whole : Whole) : Reader Expr := do
  let first ← current
  match first.lexeme with
  | .name n =>
    let _ ← take
    return match constant? n with
      | some l => .literal l
      | none => .name n
  | .string t =>
    let _ ← take
    return .literal (.text (← moreStrings t))
  | .int n =>
    let _ ← take
    return .literal (.int n)
  | .real x =>
    let _ ← take
    return .literal (.real x)
  | l =>
    if l.isSign "(" then
      let _ ← take
      parenthesised whole
    else if l.isSign "[" then
      let _ ← take
      return .list (← listUntil "]" true fun _ => whole true)
    else if l.isSign "\x7b" then
      let _ ← take
      return .dict (← listUntil "\x7d" true fun _ => entry whole)
    else reject ("unexpected " ++ Text.quoted l.describe)

/-! ## Behind a value -/

/-- Reads an argument of a call, given those before it. -/
def argument (whole : Whole) (line : Nat) (before : List (Passing × Expr)) :
    Reader (Passing × Expr) := do
  let ensure (b : Bool) : Reader Unit :=
    if b then return else rejectAt line "invalid syntax for function call expression"
  let spread := before.any fun a => a.1 = .spread
  let spreadNamed := before.any fun a => a.1 = .spreadNamed
  let named := before.any fun
    | (.named _, _) => true
    | _ => false
  let first := (← current).lexeme
  if first.isSign "*" then
    ensure (!spread && !spreadNamed)
    let _ ← take
    return (.spread, ← whole true)
  else if first.isSign "**" then
    ensure (!spreadNamed)
    let _ ← take
    return (.spreadNamed, ← whole true)
  else
    match first with
    | .name key =>
      if (← next).isSign "=" then
        ensure (!spreadNamed)
        let _ ← take
        let _ ← take
        return (.named key, ← whole true)
      else
        ensure (!spread && !spreadNamed && !named)
        return (.placed, ← whole true)
    | _ =>
      ensure (!spread && !spreadNamed && !named)
      return (.placed, ← whole true)

/-- Reads the arguments of a call with their parentheses. -/
def arguments (whole : Whole) : Reader (List (Passing × Expr)) := do
  let line := (← current).line
  expectSign "("
  listUntil ")" true (argument whole line)

/-- Reads the arguments of a call if there are any. -/
def argumentsIfAny (whole : Whole) : Reader (List (Passing × Expr)) := do
  if (← current).lexeme.isSign "(" then arguments whole else return []

/-- What stands between the brackets behind a value. -/
inductive Subscript where
  /-- A key. -/
  | key (e : Expr)
  /-- The bounds and the step of a slice. -/
  | bounds (start stop step : Expr)

/-- Reads a bound of a slice, which may be absent. -/
def bound (whole : Whole) : Reader Expr := do
  let l := (← current).lexeme
  if l.isSign "]" || l.isSign "," || l.isSign ":" then return Expr.literal .none else whole true

/-- Reads a key or the bounds of a slice. -/
def subscript (whole : Whole) : Reader Subscript := do
  let start ← if (← current).lexeme.isSign ":" then pure (Expr.literal .none) else whole true
  if ← takeIf (Lexeme.isSign ":") then
    let stop ← bound whole
    let step ← if ← takeIf (Lexeme.isSign ":") then bound whole else pure (Expr.literal .none)
    return .bounds start stop step
  else return .key start

/-- Reads the brackets behind a value, of which the opening one has been taken. -/
def subscripts (whole : Whole) (owner : Expr) : Reader Expr := do
  match ← listUntil "]" false (fun _ => subscript whole) with
  | [.key e] => return .item owner e
  | [.bounds start stop step] => return .slice owner start stop step
  | parts =>
    return .item owner (.tuple (parts.map fun
      | .key e => e
      | .bounds start stop step => .tuple [start, stop, step]))

/-- Reads an attribute or a place behind a value, of which the dot has been taken. -/
def dotted (owner : Expr) : Reader Expr := do
  let part ← take
  match part.lexeme with
  | .name n => return .member owner n
  | .int n => return .item owner (.literal (.int n))
  | _ => rejectAt part.line "expected name or number"

/-- Reads the attributes, items and calls behind a value. -/
def behind (whole : Whole) (e : Expr) : Reader Expr :=
  iterate (fun e => do
    let l := (← current).lexeme
    if l.isSign "." then
      let _ ← take
      return some (← dotted e)
    else if l.isSign "[" then
      let _ ← take
      return some (← subscripts whole e)
    else if l.isSign "(" then return some (.call e (← arguments whole))
    else return none) e

/-- Reads the name of a filter or a test, which may have dots in it. -/
def dottedName : Reader (Text × Nat) := do
  let (first, line) ← expectName
  let name ← iterate (fun (name : Text) => do
    if ← takeIf (Lexeme.isSign ".") then
      let (more, _) ← expectName
      return some (name ++ '.' :: more)
    else return none) first
  return (name, line)

/-- Reads the argument of a test that has no parentheses, if there is one. -/
def testArgument (whole : Whole) : Reader (List (Passing × Expr)) := do
  let one : Reader (List (Passing × Expr)) := do
    let e ← primary whole
    return [(.placed, ← behind whole e)]
  match (← current).lexeme with
  | .name n =>
    if n = "else" || n = "or" || n = "and" then return []
    else if n = "is" then reject "You cannot chain multiple tests with is"
    else one
  | .string _ | .int _ | .real _ => one
  | l => if l.isSign "[" || l.isSign "\x7b" then one else return []

/-- Reads a test of a value, of which the word `is` has been taken at a line. -/
def tested (whole : Whole) (subject : Expr) (line : Nat) : Reader Expr := do
  let negated ← takeIf (Lexeme.isName "not")
  let (name, _) ← dottedName
  let args ← if (← current).lexeme.isSign "(" then arguments whole else testArgument whole
  let e := Expr.test subject name args line
  return if negated then .negation e else e

/-- Reads a filter, of which the bar has been taken. -/
def filterCall (whole : Whole) : Reader BlockFilter := do
  let (name, line) ← dottedName
  return ⟨name, ← argumentsIfAny whole, line⟩

/-- Reads the filters, tests and calls behind a value. -/
def filtered (whole : Whole) (e : Expr) : Reader Expr :=
  iterate (fun e => do
    let first ← current
    if first.lexeme.isSign "|" then
      let _ ← take
      let f ← filterCall whole
      return some (.filter e f.name f.arguments f.line)
    else if first.lexeme.isName "is" then
      let _ ← take
      return some (← tested whole e first.line)
    else if first.lexeme.isSign "(" then return some (.call e (← arguments whole))
    else return none) e

/-! ## Operators -/

/-- Reads a value with the signs in front of it and all that follows it. -/
def unary (whole : Whole) : Reader Expr := do
  let signs ← iterate (fun (signs : List Bool) => do
    let l := (← current).lexeme
    if l.isSign "-" || l.isSign "+" then
      let _ ← take
      return some (l.isSign "-" :: signs)
    else return none) []
  let e ← behind whole (← primary whole)
  filtered whole (signs.foldl (fun e negative => .signed negative e) e)

/-- Reads operands with operators between them, which are applied from the left. -/
def leftChain (operand : Reader Expr) (operator? : Lexeme → Option Value.Operator) :
    Reader Expr := do
  iterate (fun left => do
    match operator? (← current).lexeme with
    | some o =>
      let _ ← take
      return some (.binary o left (← operand))
    | none => return none) (← operand)

/-- The operators of multiplication. -/
def multiplying? (l : Lexeme) : Option Value.Operator :=
  if l.isSign "*" then some .mul
  else if l.isSign "/" then some .div
  else if l.isSign "//" then some .floorDiv
  else if l.isSign "%" then some .mod
  else none

/-- The operators of addition. -/
def adding? (l : Lexeme) : Option Value.Operator :=
  if l.isSign "+" then some .add else if l.isSign "-" then some .sub else none

/-- Reads factors and powers. -/
def product (whole : Whole) : Reader Expr :=
  leftChain
    (leftChain (unary whole) fun l => if l.isSign "**" then some .pow else none)
    multiplying?

/-- Reads values that are joined. -/
def joining (whole : Whole) : Reader Expr := do
  let first ← product whole
  match ← iterate (fun (parts : List Expr) => do
    if ← takeIf (Lexeme.isSign "~") then return some (parts ++ [← product whole])
    else return none) [first] with
  | [e] => return e
  | parts => return .concat parts

/-- Reads sums. -/
def sum (whole : Whole) : Reader Expr := leftChain (joining whole) adding?

/-- The comparison that a sign means. -/
def comparing? (l : Lexeme) : Option Comparison :=
  if l.isSign "==" then some .equal
  else if l.isSign "!=" then some .unequal
  else if l.isSign "<" then some (.order .less)
  else if l.isSign "<=" then some (.order .lessOrEqual)
  else if l.isSign ">" then some (.order .greater)
  else if l.isSign ">=" then some (.order .greaterOrEqual)
  else if l.isName "in" then some .among
  else none

/-- Takes a comparison if there is one. -/
def comparison? : Reader (Option Comparison) := do
  let l := (← current).lexeme
  match comparing? l with
  | some c =>
    let _ ← take
    return some c
  | none =>
    if l.isName "not" && (← next).isName "in" then
      let _ ← take
      let _ ← take
      return some .notAmong
    else return none

/-- Reads comparisons. -/
def comparisons (whole : Whole) : Reader Expr := do
  let first ← sum whole
  match ← iterate (fun (others : List (Comparison × Expr)) => do
    match ← comparison? with
    | some c => return some (others ++ [(c, ← sum whole)])
    | none => return none) [] with
  | [] => return first
  | others => return .compare first others

/-- Reads negations. -/
def negations (whole : Whole) : Reader Expr := do
  let count ← iterate (fun (n : Nat) => do
    if ← takeIf (Lexeme.isName "not") then return some (n + 1) else return none) 0
  let e ← comparisons whole
  return count.repeat .negation e

/-- Reads operands with a word between them, which are joined from the left. -/
def wordChain (word : Text) (join : Expr → Expr → Expr) (operand : Reader Expr) : Reader Expr := do
  iterate (fun left => do
    if ← takeIf (Lexeme.isName word) then return some (join left (← operand)) else return none)
    (← operand)

/-- Reads alternatives. -/
def alternatives (whole : Whole) : Reader Expr :=
  wordChain "or" .either (wordChain "and" .both (negations whole))

/-- Reads choices. -/
def choices (whole : Whole) : Reader Expr := do
  let line := (← current).line
  let first ← alternatives whole
  let (e, _) ← iterate (fun (e, line) => do
    if ← takeIf (Lexeme.isName "if") then
      let condition ← alternatives whole
      let no ← if ← takeIf (Lexeme.isName "else") then whole true else pure (Expr.noAlternative line)
      return some (.choice condition e no, (← current).line)
    else return none) (first, line)
  return e

/-- Reads an expression with brackets that are nested no deeper than `fuel`. -/
def expressionWithin : Nat → Whole
  | 0, _ => reject "brackets are nested too deeply"
  | fuel + 1, true => choices (expressionWithin fuel)
  | fuel + 1, false => alternatives (expressionWithin fuel)

/-- Reads an expression.  Brackets are not nested more deeply than there are lexemes. -/
def expression : Whole := fun withChoices => do expressionWithin (← get).limit withChoices

/-- Reads an expression or a tuple without parentheses. -/
def expressions (withChoices : Bool) (isEnd : Lexeme → Bool) : Reader Expr :=
  tupleOr expression withChoices isEnd

end Reader

end ComponentTags.Template
