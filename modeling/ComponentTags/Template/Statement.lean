/-
# Reading statements

A template is a sequence of text, expression spans and statements.  A statement with a block reads on
up to one of the tags that may end the block; a tag that nothing expects is rejected with a hint at
what is open.
-/
import ComponentTags.Template.Expression

namespace ComponentTags.Template

namespace Reader

/-! ## Open blocks -/

/-- The blocks around a place of a template, the innermost first. -/
structure Surroundings where
  /-- The tags of the statements that are open. -/
  tags : List Text := []
  /-- The tags that may end the blocks. -/
  ends : List (List Text) := []

/-- The message for a tag that nothing expects, or for the end of the template. -/
def Surroundings.complaint (s : Surroundings) (tag : Option Text) : Text :=
  let found := match tag with
    | some t => "Encountered unknown tag " ++ Text.quoted t ++ "."
    | none => "Unexpected end of template."
  let hint := match s.ends with
    | [] => []
    | wanted :: _ =>
      let wantedText := Text.join " or " (wanted.map Text.quoted)
      if tag.any fun t => s.ends.any (·.contains t) then
        " You probably made a nesting mistake. Jinja is expecting this tag, but currently looking for "
          ++ wantedText ++ "."
      else " Jinja was looking for the following tags: " ++ wantedText ++ "."
  let innermost := match s.tags with
    | [] => []
    | t :: _ => " The innermost block that needs to be closed is " ++ Text.quoted t ++ "."
  found ++ hint ++ innermost

/-- The reader of a block up to one of some tags, which is left to be taken. -/
abbrev Block := List Text → Reader (List Statement)

/-- Reads a block that one tag ends, and takes the tag. -/
def closedBlock (block : Block) (tag : Text) : Reader (List Statement) := do
  let body ← block [tag]
  let _ ← take
  return body

/-! ## Targets -/

/-- What is read where a target is expected: a target, or an expression of a kind that is none. -/
abbrev Assignable := Except Text Target

/-- The target that an expression is. -/
def assignable (line : Nat) (e : Expr) : Assignable :=
  match e with
  | .name n => .ok (.name n line)
  | .tuple parts => (assignableParts parts).map .tuple
  | e => .error e.kindName
where
  /-- The targets that the parts of a tuple are. -/
  assignableParts : List Expr → Except Text (List Target)
    | [] => .ok []
    | .name n :: rest => (assignableParts rest).map (.name n line :: ·)
    | _ => .error "tuple"

/-- Reads a part of a target.  An attribute can be a target where the flag is set. -/
def targetPart (withMember : Bool) : Reader Assignable := do
  let first ← current
  let direct := match first.lexeme with
    | .name n => (constant? n).isNone
    | _ => false
  let e ← primary expression
  match e with
  | .name n =>
    if withMember && direct && (← current).lexeme.isSign "." then
      let _ ← take
      let (field, _) ← expectName
      return .ok (.member n field)
    else return assignable first.line e
  | e => return assignable first.line e

/-- Reads what is assigned to. -/
def target (withMember : Bool) (isEnd : Lexeme → Bool) : Reader Target := do
  let line := (← current).line
  let refuse {α : Type} (kind : Text) : Reader α :=
    rejectAt line ("can't assign to " ++ Text.quoted kind)
  match ← tupleParts isEnd (targetPart withMember) with
  | ([.ok t], false) => return t
  | ([.error kind], false) => refuse kind
  | ([], false) => missing
  | (parts, _) =>
    match parts.mapM id with
    | .ok ts => return .tuple ts
    | .error _ => refuse "tuple"

/-- Reads a name that is assigned to. -/
def targetName : Reader Text := do
  let (n, line) ← expectName
  if (constant? n).isSome then rejectAt line ("can't assign to " ++ Text.quoted "name") else return n

/-! ## Statements -/

/-- Reads the rest of a `set` statement. -/
def setRest (block : Block) : Reader Statement := do
  let t ← target true fun _ => false
  if ← takeIf (Lexeme.isSign "=") then
    return .set t (← expressions true fun _ => false)
  else
    let filters ← iterate (fun (filters : List BlockFilter) => do
      if ← takeIf (Lexeme.isSign "|") then return some (filters ++ [← filterCall expression])
      else return none) []
    return .setBlock t filters (← closedBlock block "endset")

/-- Reads the rest of an `if` statement. -/
def choiceRest (block : Block) : Reader Statement := do
  let part : Reader (Expr × List Statement × Text) := do
    let condition ← expressions false fun _ => false
    let body ← block ["elif", "else", "endif"]
    match (← take).lexeme with
    | .name word => return (condition, body, word)
    | _ => return (condition, body, "endif")
  let (condition, body, word) ← part
  let (others, word) ← iterate (fun (others, (word : Text)) => do
    if word = "elif" then
      let (condition, body, word) ← part
      return some (others ++ [(condition, body)], word)
    else return none) (([] : List (Expr × List Statement)), word)
  let otherwise ← if word = "else" then closedBlock block "endif" else pure []
  return .choice condition body others otherwise

/-- Reads the rest of a `for` statement. -/
def loopRest (block : Block) : Reader Statement := do
  let t ← target false (Lexeme.isName "in")
  let _ ← expectWord "in"
  let items ← expressions false (Lexeme.isName "recursive")
  let conditions ← if ← takeIf (Lexeme.isName "if") then pure [← expression true] else pure []
  let _ ← takeIf (Lexeme.isName "recursive")
  let body ← block ["endfor", "else"]
  let word ← take
  let otherwise ← if word.lexeme.isName "endfor" then pure [] else closedBlock block "endfor"
  return .loop t items conditions body otherwise

/-- Reads the rest of a `with` statement. -/
def scopeRest (block : Block) : Reader Statement := do
  let assignments ← iterate (fun (done : List (Target × Expr)) => do
    match (← current).lexeme with
    | .blockEnd => return none
    | _ =>
      if !done.isEmpty then expectSign ","
      let t ← target false fun _ => false
      expectSign "="
      return some (done ++ [(t, ← expression true)])) []
  return .scope assignments (← closedBlock block "endwith")

/-- Reads a parameter of a macro, given those before it. -/
def parameter (before : List Parameter) : Reader Parameter := do
  let n ← targetName
  if ← takeIf (Lexeme.isSign "=") then return ⟨n, some (← expression true)⟩
  else if before.any fun p => p.default.isSome then
    reject "non-default argument follows default argument"
  else return ⟨n, none⟩

/-- Reads the rest of a `macro` statement. -/
def macroRest (block : Block) (line : Nat) : Reader Statement := do
  let n ← targetName
  expectSign "("
  let parameters ← listUntil ")" false parameter
  return .define n parameters (← closedBlock block "endmacro") line

/-- Reads a statement whose tag has the reader `rest` for what follows it. -/
def statement (s : Surroundings) (block : Text → Block) : Reader Statement := do
  let first ← current
  match first.lexeme with
  | .name tag =>
    let rest? : Option (Reader Statement) :=
      if tag = "set" then some (setRest (block tag))
      else if tag = "if" then some (choiceRest (block tag))
      else if tag = "for" then some (loopRest (block tag))
      else if tag = "with" then some (scopeRest (block tag))
      else if tag = "macro" then some (macroRest (block tag) first.line)
      else none
    match rest? with
    | some rest =>
      let _ ← take
      rest
    | none => rejectAt first.line (s.complaint (some tag))
  | _ => rejectAt first.line "tag name expected"

/-- Reads a part of a template: text, an expression span or a statement.  There is none at the end of
the template and at a tag that ends the block. -/
def part? (s : Surroundings) (ends : List Text) (block : Text → Block) :
    Reader (Option Statement) := do
  match (← current).lexeme with
  | .data t =>
    let _ ← take
    return some (.text t)
  | .valueBegin =>
    let _ ← take
    let e ← expressions true fun _ => false
    expectValueEnd
    return some (.output e)
  | .blockBegin =>
    let _ ← take
    let isEnd := match (← current).lexeme with
      | .name tag => ends.contains tag
      | _ => false
    if isEnd then return none
    else
      let st ← statement s block
      expectBlockEnd
      return some st
  | _ => return none

/-- Reads a block up to one of some tags or the end of the template; blocks in it are nested no deeper
than `fuel`. -/
def statementsWithin : Nat → Surroundings → Block
  | 0, _, _ => reject "blocks are nested too deeply"
  | fuel + 1, s, ends => do
    let inner := if ends.isEmpty then s else { s with ends := ends :: s.ends }
    let block (tag : Text) (ends : List Text) : Reader (List Statement) := do
      let inside := { inner with tags := tag :: inner.tags }
      let _ ← takeIf (Lexeme.isSign ":")
      expectBlockEnd
      let body ← statementsWithin fuel inside ends
      match (← current).lexeme with
      | .finish => reject ({ inside with ends := ends :: inside.ends }.complaint none)
      | _ => return body
    let parts ← iterate (fun (parts : List Statement) => do
      return (← part? inner ends block).map (· :: parts)) []
    return parts.reverse

end Reader

/-- The statements of a template, given the text that component tags were lowered to. -/
def read (d : Delimiters) (template : Text) : Except Rejection (List Statement) :=
  let ls := lexemes d template
  let reader : Reader (List Statement) := do
    Reader.settle
    Reader.statementsWithin (ls.length + 1) {} []
  (reader.run ⟨ls, ls.length + 1⟩).map Prod.fst

end ComponentTags.Template
