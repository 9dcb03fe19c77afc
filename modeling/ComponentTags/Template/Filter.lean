/-
# Filters and tests

The filters compute with a value and arguments.  Those that work on text keep markup as it is; the
filter `join` shows the items of a value, and what is joined to markup is escaped.
-/
import ComponentTags.Template.Check
import ComponentTags.Template.Store
import ComponentTags.Text.Case

namespace ComponentTags.Template

namespace Arguments

/-- The arguments for some parameters, `none` for those without one.  An unknown name and an argument
too many are failures. -/
def spreadTo (a : Arguments) (what : Text) (parameters : List Text) :
    Except Failure (List (Option Value)) :=
  let remaining := parameters.drop a.placed.length
  match a.named.find? fun (n, _) => !remaining.contains n with
  | some (n, _) => .error (.arguments (what ++ " takes no keyword argument " ++ Text.quoted n))
  | none =>
    if parameters.length < a.placed.length then
      .error (.arguments (what ++ " takes not more than " ++ Text.ofNat parameters.length ++
        " argument(s)"))
    else .ok (a.placed.map some ++ remaining.map fun n => a.named.get? n)

end Arguments

namespace Filter

/-- A value as text that keeps its markup. -/
def soft (v : Value) : Except Failure Value :=
  match v with
  | .text _ | .markup _ => .ok v
  | v => v.display.map .text

/-- A text function on a value. -/
def onText (f : Text → Text) (v : Value) : Except Failure Value := do
  match ← soft v with
  | .markup t => return .markup (f t)
  | .text t => return .text (f t)
  | v => return v

/-- A text without some characters at both ends. -/
def stripped (isStripped : Char → Bool) (t : Text) : Text :=
  ((t.dropWhile isStripped).reverse.dropWhile isStripped).reverse

/-- The filter `trim`. -/
def trim (v : Value) (characters : Option Value) : Except Failure Value :=
  match characters with
  | none | some .none => onText (stripped Text.isBlank) v
  | some cs =>
    match cs.asText? with
    | some set => onText (stripped set.contains) v
    | none => .error (.arguments "strip arg must be None or str")

/-- The attribute of an item that a name or a number with dots in it leads to. -/
def attributeOf (m : Value.Missing) (key : Value) (v : Value) : Except Failure Value :=
  match key with
  | .text t | .markup t =>
    (splitAt '.' t).foldlM (fun v part =>
      if part.all Char.isDigit && !part.isEmpty then v.lookUpItem m (.int (numberIn 10 part))
      else v.lookUpItem m (.text part)) v
  | key => v.lookUpItem m key
where
  /-- The parts of a text between the occurrences of a character. -/
  splitAt (c : Char) : Text → List Text
    | [] => [[]]
    | d :: rest =>
      if d = c then [] :: splitAt c rest
      else match splitAt c rest with
        | [] => [[d]]
        | first :: others => (d :: first) :: others

/-- The filter `join`. -/
def join (s : Setting) (v : Value) (separator key : Option Value) : Except Failure Value := do
  let separator := separator.getD (.text [])
  let items ← v.items
  let items ← match key with
    | none | some .none => pure items
    | some k => items.mapM (attributeOf s.missing k)
  if s.escapes && (separator.isMarkup || items.any Value.isMarkup) then
    return .markup (Text.join (← separator.escaped) (← items.mapM Value.escaped))
  else return .text (Text.join (← separator.display) (← items.mapM Value.display))

/-- The filter `default`. -/
def default (v : Value) (alternative boolean : Option Value) : Except Failure Value := do
  let alternative := alternative.getD (.text [])
  match v with
  | .undefined .. => return alternative
  | v =>
    let strictly ← (boolean.getD (.bool false)).decide
    if strictly && !(← v.decide) then return alternative else return v

/-- Applies a filter. -/
def apply (s : Setting) (name : Text) (v : Value) (a : Arguments) : Except Failure Value := do
  if name = "upper" then
    let _ ← a.spreadTo name []
    onText Text.upper v
  else if name = "trim" then
    match ← a.spreadTo name ["chars"] with
    | cs :: _ => trim v cs
    | [] => trim v none
  else if name = "join" then
    match ← a.spreadTo name ["d", "attribute"] with
    | d :: key :: _ => join s v d key
    | _ => join s v none none
  else if name = "default" || name = "d" then
    match ← a.spreadTo name ["default_value", "boolean"] with
    | value :: boolean :: _ => default v value boolean
    | _ => default v none none
  else if name = "length" || name = "count" then
    let _ ← a.spreadTo name []
    return .int (← v.length)
  else if name = "safe" then
    let _ ← a.spreadTo name []
    return .markup (← v.display)
  else if name = "escape" || name = "e" then
    let _ ← a.spreadTo name []
    return .markup (← v.escaped)
  else .error (.unknownFilter name)

/-- Applies a test. -/
def test (name : Text) (v : Value) (a : Arguments) : Except Failure Bool := do
  let isUndefined := match v with
    | .undefined .. => true
    | _ => false
  if name = "defined" then
    let _ ← a.spreadTo name []
    return !isUndefined
  else if name = "undefined" then
    let _ ← a.spreadTo name []
    return isUndefined
  else if name = "none" then
    let _ ← a.spreadTo name []
    return match v with
      | .none => true
      | _ => false
  else .error (.unknownTest name)

end Filter

end ComponentTags.Template
