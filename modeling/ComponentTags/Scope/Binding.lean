/-
# Bindings

The names that a single statement of the template language binds, read off its significant tokens.
What a statement means beyond that plays no part here: the answer depends on the shape of the tokens
alone, also where the statement is not well formed.
-/
import ComponentTags.Scope.Token

namespace ComponentTags

/-- The names among some tokens. -/
def namesOf (ts : List Token) : List Text := (ts.filter Token.isName).map Token.text

/-- The names of a list of parameters behind its opening bracket, with `depth` brackets open: the
names that stand directly in the list behind its opening bracket or a comma. -/
def parameters (depth : Nat) (previous : Token) : List Token → List Text
  | [] => []
  | t :: rest =>
    if t.opens then parameters (depth + 1) t rest
    else if t.closes then if depth = 1 then [] else parameters (depth - 1) t rest
    else if depth = 1 && t.isName && (previous.isSign "(" || previous.isSign ",") then
      t.text :: parameters depth t rest
    else parameters depth t rest

/-- The names of the list of parameters that begins some tokens. -/
def parameterList : List Token → List Text
  | t :: rest => if t.isSign "(" then parameters 1 t rest else []
  | [] => []

/-- The tokens in front of the first that is a certain sign, if there is one. -/
def beforeSign? (sign : Text) : List Token → Option (List Token)
  | [] => none
  | t :: rest => if t.isSign sign then some [] else (beforeSign? sign rest).map (t :: ·)

/-- The targets of a loop: the tokens in front of the word `in`. -/
def loopTargets (ts : List Token) : List Token := ts.takeWhile fun t => !t.isNamed "in"

/-- The names among the targets of an assignment that are no parts of a dotted path. -/
def assignedNames (previous : Option Token) : List Token → List Text
  | [] => []
  | t :: rest =>
    if t.isName && !previous.any (·.isSign ".") && !rest.head?.any (·.isSign ".") then
      t.text :: assignedNames (some t) rest
    else assignedNames (some t) rest

/-- The names that stand in front of an equals sign, first of all or behind a comma. -/
def assignmentTargets (previous : Option Token) : List Token → List Text
  | [] => []
  | t :: rest =>
    if t.isName && rest.head?.any (·.isSign "=") && previous.all (·.isSign ",") then
      t.text :: assignmentTargets (some t) rest
    else assignmentTargets (some t) rest

/-- The names behind the word `as`. -/
def aliases : List Token → List Text
  | t :: u :: rest =>
    if t.isNamed "as" && u.isName then u.text :: aliases (u :: rest) else aliases (u :: rest)
  | _ => []

/-- The names behind the word `import`, words that are never variables left out. -/
def importedNames (importing : Bool) : List Token → List Text
  | [] => []
  | t :: rest =>
    if t.isNamed "import" then importedNames true rest
    else if importing && t.isName && !keywords.contains t.text then
      t.text :: importedNames importing rest
    else importedNames importing rest

/-- The names that every macro can read besides its parameters. -/
def macroNames : List Text := ["varargs", "kwargs", "caller"]

/-- The names that a statement binds, given its first word and the significant tokens behind it. -/
def bindingsOf (tag : Text) (rest : List Token) : List Text :=
  if tag = "for" then namesOf (loopTargets rest) ++ [("loop" : Text)]
  else if tag = "set" then
    match beforeSign? "=" rest with
    | some targets => assignedNames none targets
    | none => namesOf (rest.take 1)
  else if tag = "with" then assignmentTargets none rest
  else if tag = "macro" then
    match rest with
    | t :: more => if t.isName then macroNames ++ t.text :: parameterList more else macroNames
    | [] => macroNames
  else if tag = "call" then parameterList rest
  else if tag = "import" then aliases rest
  else if tag = "from" then importedNames false rest
  else []

/-- The first word of a statement with the significant tokens behind it. -/
def statementTag? (ts : List Token) : Option (Text × List Token) :=
  match significant ts with
  | t :: rest => if t.isName then some (t.text, rest) else none
  | [] => none

/-- The names that a statement binds. -/
def statementBindings (ts : List Token) : List Text :=
  match statementTag? ts with
  | some (tag, rest) => bindingsOf tag rest
  | none => []

end ComponentTags
