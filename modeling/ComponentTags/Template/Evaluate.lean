/-
# Evaluating expressions

The value of an expression at a place of a running template.  Calls are left to the caller: what a
function or a macro does is not part of this file.
-/
import ComponentTags.Template.Filter

namespace ComponentTags.Template

/-! ## Joining and comparing -/

mutual

/-- Whether an expression is made of constants only. -/
def Expr.isConstant : Expr → Bool
  | .literal _ => true
  | .name _ | .call .. | .noAlternative _ => false
  | .list items | .tuple items | .concat items => areConstant items
  | .dict entries => areConstantEntries entries
  | .member owner _ => owner.isConstant
  | .item owner key => owner.isConstant && key.isConstant
  | .slice owner start stop step =>
    owner.isConstant && start.isConstant && stop.isConstant && step.isConstant
  | .filter subject _ arguments _ | .test subject _ arguments _ =>
    subject.isConstant && areConstantArguments arguments
  | .signed _ operand | .negation operand => operand.isConstant
  | .binary _ left right | .both left right | .either left right =>
    left.isConstant && right.isConstant
  | .compare first others => first.isConstant && areConstantOthers others
  | .choice condition yes no => condition.isConstant && yes.isConstant && no.isConstant

/-- Whether several expressions are made of constants only. -/
def areConstant : List Expr → Bool
  | [] => true
  | e :: rest => e.isConstant && areConstant rest

/-- Whether the entries of a dictionary are made of constants only. -/
def areConstantEntries : List (Expr × Expr) → Bool
  | [] => true
  | (k, v) :: rest => k.isConstant && v.isConstant && areConstantEntries rest

/-- Whether arguments are made of constants only. -/
def areConstantArguments : List (Passing × Expr) → Bool
  | [] => true
  | (_, e) :: rest => e.isConstant && areConstantArguments rest

/-- Whether the other values of a comparison are made of constants only. -/
def areConstantOthers : List (Comparison × Expr) → Bool
  | [] => true
  | (_, e) :: rest => e.isConstant && areConstantOthers rest

end

/-- What values are shown as, joined.  With markup among them the others are escaped, unless all of
them are constants. -/
def joinValues (s : Setting) (areConstants : Bool) (vs : List Value) : Except Failure Value := do
  if s.escapes && !areConstants && vs.any Value.isMarkup then
    return .markup (← vs.mapM Value.escaped).flatten
  else return .text (← vs.mapM Value.display).flatten

/-- Rejects the use of a strict missing value. -/
def settled (v : Value) : Except Failure Unit :=
  match v with
  | .undefined true reason => .error (.undefinedUse reason)
  | _ => .ok ()

/-- Whether a comparison holds. -/
def Comparison.holds (c : Comparison) (a b : Value) : Except Failure Bool := do
  match c with
  | .equal =>
    settled a
    settled b
    return Value.equal a b
  | .unequal =>
    settled a
    settled b
    return !Value.equal a b
  | .order o => Value.ordered o a b
  | .among => b.contains a
  | .notAmong => return !(← b.contains a)

/-! ## Parts -/

/-- A bound of a slice. -/
def boundOf (v : Value) : Except Failure (Option Int) :=
  match v with
  | .none => .ok none
  | v =>
    match v.asInt? with
    | some n => .ok (some n)
    | none =>
      .error (.arguments "slice indices must be integers or None or have an __index__ method")

/-- A slice of a value. -/
def slice (v start stop step : Value) : Except Failure Value := do
  let cut {α : Type} (xs : List α) : Except Failure (List α) := do
    let stride ← boundOf step
    if stride = some 0 then throw (.unsuitable "slice step cannot be zero")
    return Value.sliced xs (← boundOf start) (← boundOf stop) stride
  match v with
  | .text t => return .text (← cut t)
  | .markup t => return .markup (← cut t)
  | .bytes data => return .bytes (← cut data)
  | .list items => return .list (← cut items)
  | .tuple items => return .tuple (← cut items)
  | .undefined _ reason => throw (.undefinedUse reason)
  | v => throw (.arguments (Text.quoted (v.typeName) ++ " object is not subscriptable"))

/-- Entries in which a key has a new value. -/
def setEntry (entries : List (Value × Value)) (key value : Value) : List (Value × Value) :=
  if entries.any fun (k, _) => Value.equal k key then
    entries.map fun (k, v) => if Value.equal k key then (k, value) else (k, v)
  else entries ++ [(key, value)]

/-- The dictionary with some entries; a later entry of a key overwrites an earlier one. -/
def dictOf (entries : List (Value × Value)) : Except Failure Value := do
  match entries.find? fun (k, _) => !k.isHashable with
  | some (k, _) => throw (.unhashable k.typeName)
  | none => return .dict (entries.foldl (fun es (k, v) => setEntry es k v) [])

/-- Adds an argument to those before it. -/
def Arguments.add (a : Arguments) (passing : Passing) (v : Value) : Except Failure Arguments := do
  match passing with
  | .placed => return { a with placed := a.placed ++ [v] }
  | .named n => return { a with named := a.named.set n v }
  | .spread => return { a with placed := a.placed ++ (← v.items) }
  | .spreadNamed =>
    match v with
    | .dict es =>
      es.foldlM (fun a (k, v) =>
        match k.asText? with
        | some n => return { a with named := a.named.set n v }
        | none => throw (.arguments "keywords must be strings")) a
    | v => throw (.arguments ("argument after ** must be a mapping, not " ++ v.typeName))

/-! ## Values -/

mutual

/-- The value of an expression. -/
def Expr.eval (s : Setting) (call : Caller) (p : Place) : Expr → Action Value
  | .literal l => return l.value
  | .name n => return (← Action.value? s p n).getD (s.missing.name n)
  | .list items => return .list (← evalAll s call p items)
  | .tuple items => return .tuple (← evalAll s call p items)
  | .dict entries => do Action.of (dictOf (← evalEntries s call p entries))
  | .member owner n => do Action.of (Value.lookUpAttribute s.missing (← owner.eval s call p) n)
  | .item owner key => do
    let v ← owner.eval s call p
    Action.of (Value.lookUpItem s.missing v (← key.eval s call p))
  | .slice owner start stop step => do
    let v ← owner.eval s call p
    let first ← start.eval s call p
    let last ← stop.eval s call p
    Action.of (Template.slice v first last (← step.eval s call p))
  | .call callee arguments => do
    let f ← callee.eval s call p
    call p f (← evalArguments s call p {} arguments)
  | .filter subject n arguments _ => do
    let v ← subject.eval s call p
    Action.of (Filter.apply s n v (← evalArguments s call p {} arguments))
  | .test subject n arguments _ => do
    let v ← subject.eval s call p
    return .bool (← Action.of (Filter.test n v (← evalArguments s call p {} arguments)))
  | .signed negative operand => do Action.of (Value.signed negative (← operand.eval s call p))
  | .binary o left right => do
    let a ← left.eval s call p
    Action.of (Value.operate o a (← right.eval s call p))
  | .concat parts => do
    Action.of (joinValues s (areConstant parts) (← evalAll s call p parts))
  | .compare first others => do evalComparisons s call p (← first.eval s call p) others
  | .both left right => do
    let a ← left.eval s call p
    if ← Action.of a.decide then right.eval s call p else return a
  | .either left right => do
    let a ← left.eval s call p
    if ← Action.of a.decide then return a else right.eval s call p
  | .negation operand => do return .bool (!(← Action.of (← operand.eval s call p).decide))
  | .choice condition yes no => do
    if ← Action.of (← condition.eval s call p).decide then yes.eval s call p else no.eval s call p
  | .noAlternative line =>
    return s.missing.reason ("the inline if-expression on line " ++ Text.ofNat line ++
      " evaluated to false and no else section was defined.")

/-- The values of several expressions. -/
def evalAll (s : Setting) (call : Caller) (p : Place) : List Expr → Action (List Value)
  | [] => return []
  | e :: rest => do
    let v ← e.eval s call p
    return v :: (← evalAll s call p rest)

/-- The entries of a dictionary. -/
def evalEntries (s : Setting) (call : Caller) (p : Place) :
    List (Expr × Expr) → Action (List (Value × Value))
  | [] => return []
  | (k, e) :: rest => do
    let key ← k.eval s call p
    let v ← e.eval s call p
    return (key, v) :: (← evalEntries s call p rest)

/-- The arguments of a call, together with some that are known already. -/
def evalArguments (s : Setting) (call : Caller) (p : Place) (known : Arguments) :
    List (Passing × Expr) → Action Arguments
  | [] => return known
  | (passing, e) :: rest => do
    let v ← e.eval s call p
    evalArguments s call p (← Action.of (known.add passing v)) rest

/-- Whether a value and others are in a chain of comparisons.  What comes behind a comparison that
does not hold is not evaluated. -/
def evalComparisons (s : Setting) (call : Caller) (p : Place) (left : Value) :
    List (Comparison × Expr) → Action Value
  | [] => return .bool true
  | (c, e) :: rest => do
    let right ← e.eval s call p
    if ← Action.of (c.holds left right) then evalComparisons s call p right rest
    else return .bool false

end

/-! ## Small facts -/

theorem Expr.eval_literal (s : Setting) (call : Caller) (p : Place) (l : Literal) :
    (Expr.literal l).eval s call p = pure l.value := by
  rw [Expr.eval]

end ComponentTags.Template
