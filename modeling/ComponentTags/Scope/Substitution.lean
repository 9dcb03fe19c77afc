/-
# Substitution

Content between the tags of a component runs apart from the template around it, with a context in
place of that template's variables.  A name that is free in the content is therefore replaced by a
look-up in the context: the component itself and the rendered component have places of their own
there, and every other name is looked up among the captured variables.

Which names of a span are free is decided token by token from what stands next to them: no attribute,
filter, test or keyword argument is a variable, and neither are the keywords and the names that begin
with the reserved letters.
-/
import ComponentTags.Scope.Basic

namespace ComponentTags

/-! ## The regions of a statement -/

/-- How the tokens of a region of a statement are read. -/
inductive Region where
  /-- What is named here is not a variable. -/
  | label
  /-- Variables are read before the statement binds anything. -/
  | outer
  /-- Variables are read after the statement has bound its targets. -/
  | inner
deriving DecidableEq, Repr

/-- The regions of what follows the word `in` of a loop, with `depth` brackets open: a condition
outside all brackets sees the targets of the loop. -/
def iterationRegions (depth : Int) : List Token → List Region
  | [] => []
  | t :: rest =>
    if t.opens then .outer :: iterationRegions (depth + 1) rest
    else if t.closes then .outer :: iterationRegions (depth - 1) rest
    else if depth = 0 && t.isNamed "if" then .outer :: rest.map fun _ => .inner
    else .outer :: iterationRegions depth rest

/-- The regions of the assignments of a `with` statement that binds `names`. -/
def assignmentRegions (names : List Text) : List Token → List Region
  | [] => []
  | t :: rest =>
    (if names.contains t.text && rest.head?.any (·.isSign "=") then .label else .outer) ::
      assignmentRegions names rest

/-- The statements whose first argument is a label. -/
def labelled : List Text := ["block", "endblock", "filter"]

/-- The regions of the significant tokens behind the first word of a statement. -/
def regionsOf (tag : Text) (rest : List Token) : List Region :=
  let outer (ts : List Token) : List Region := ts.map fun _ => .outer
  let label (ts : List Token) : List Region := ts.map fun _ => .label
  if labelled.contains tag then label (rest.take 1) ++ outer (rest.drop 1)
  else if tag = "set" then
    match beforeSign? "=" rest with
    | some targets => label targets ++ outer (rest.drop targets.length)
    | none => label (rest.take 1) ++ outer (rest.drop 1)
  else if tag = "for" then
    let targets := loopTargets rest
    label targets ++
      match rest.drop targets.length with
      | [] => []
      | t :: more => outer [t] ++ iterationRegions 0 more
  else if tag = "with" then assignmentRegions (assignmentTargets none rest) rest
  else outer rest

/-- The names that are bound in the inner region of a statement. -/
def innerNames (tag : Text) (rest : List Token) : List Text :=
  if tag = "for" then namesOf (loopTargets rest) else []

/-! ## Variables -/

/-- What a walk over the significant tokens of a span has passed. -/
structure Passed where
  /-- The last token. -/
  last : Option Token := none
  /-- The token in front of the last. -/
  beforeLast : Option Token := none
  /-- The open brackets, the innermost first. -/
  brackets : List Text := []

/-- What is passed behind a further token. -/
def Passed.after (p : Passed) (t : Token) : Passed where
  last := some t
  beforeLast := p.last
  brackets :=
    if t.opens then t.text :: p.brackets else if t.closes then p.brackets.tail else p.brackets

/-- Whether a token is the name of an attribute, a filter or a test, going by what is in front of
it. -/
def Passed.beforeSelector (p : Passed) : Bool :=
  match p.last with
  | none => false
  | some t =>
    t.isSign "." || t.isSign "|" || t.isNamed "is" ||
      (t.isNamed "not" && p.beforeLast.any (·.isNamed "is"))

/-- Whether a token is a variable, given the significant tokens around it. -/
def isVariable (p : Passed) (t : Token) (next : Option Token) : Bool :=
  t.isName && !p.beforeSelector && !keywords.contains t.text && !isReserved t.text &&
    !(next.any (·.isSign "=") && p.brackets.head? = some "(")

/-- The tokens of a span, each with the mark whether it is a free variable.  The regions belong to the
significant tokens, one after the other; `isFree` says which variables of a region are free. -/
def markFree (isFree : Region → Text → Bool) :
    Passed → List Region → List Token → List (Token × Bool)
  | _, _, [] => []
  | p, regions, t :: rest =>
    if t.isSignificant then
      let region := regions.headD .outer
      (t, region ≠ .label && isVariable p t (rest.find? Token.isSignificant) &&
          isFree region t.text) ::
        markFree isFree (p.after t) regions.tail rest
    else (t, false) :: markFree isFree p regions rest

/-! ## Replacing free variables -/

/-- The name of the context that content runs with. -/
def contextName : Text := "glam__ctx"

/-- The look-up that replaces a free variable. -/
def lookup (name : Text) : Text :=
  if name = thisName then contextName ++ ".dot"
  else if name = rootName then contextName ++ ".root"
  else contextName ++ ".locals[\"" ++ name ++ "\"]"

/-- Whether a free variable has to be captured where the content stands. -/
def isCaptured (name : Text) : Bool := name ≠ thisName && name ≠ rootName

/-- The text of marked tokens with every free variable replaced. -/
def replacedText (marked : List (Token × Bool)) : Text :=
  marked.flatMap fun (t, free) => if free then lookup t.text else t.text

/-- The captured names of marked tokens, each as often as it occurs. -/
def capturedNames (marked : List (Token × Bool)) : List Text :=
  (marked.filter fun (t, free) => free && isCaptured t.text).map (·.1.text)

/-- The marks of an expression where some names are bound. -/
def markExpression (bound : List Text) (ts : List Token) : List (Token × Bool) :=
  markFree (fun _ name => !bound.contains name) {} [] ts

/-- The statements in which the names that they bind do not occur as variables. -/
def binders : List Text := ["macro", "call", "import", "from"]

/-- The marks of a statement where some names are bound. -/
def markStatement (bound : List Text) (ts : List Token) : List (Token × Bool) :=
  match statementTag? ts with
  | none => markExpression bound ts
  | some (tag, rest) =>
    let bound := if binders.contains tag then bound ++ bindingsOf tag rest else bound
    let inner := innerNames tag rest
    markFree
      (fun region name =>
        !bound.contains name && !(region = .inner && inner.contains name))
      {} (.label :: regionsOf tag rest) ts

/-! ## Small facts -/

theorem markFree_tokens (isFree : Region → Text → Bool) (p : Passed) (regions : List Region)
    (ts : List Token) : (markFree isFree p regions ts).map Prod.fst = ts := by
  induction ts generalizing p regions with
  | nil => rfl
  | cons t rest ih => by_cases h : t.isSignificant <;> simp [markFree, h, ih]

end ComponentTags
