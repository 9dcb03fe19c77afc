/-
# Functions

The functions that an engine gives to its templates.  A function may depend on how often it was called
before, so that it can count, and on nothing else but its arguments.
-/
import ComponentTags.Value.Access
import ComponentTags.Text.Case

namespace ComponentTags

/-- A function: what it gives, from the number of earlier calls and the arguments. -/
structure TemplateFunction where
  /-- The result of a call. -/
  run : (calls : Nat) → (arguments : List Value) → Except Failure Value

namespace TemplateFunction

/-- The function that always gives the same value. -/
def constant (v : Value) : TemplateFunction := ⟨fun _ _ => .ok v⟩

/-- The function that counts its calls. -/
def counter : TemplateFunction := ⟨fun calls _ => .ok (.int (calls + 1 : Nat))⟩

/-- The function that always fails. -/
def failing (kind message : Text) : TemplateFunction := ⟨fun _ _ => .error (.thrown kind message)⟩

/-- A function of one argument. -/
def ofOne (f : Value → Except Failure Value) : TemplateFunction where
  run _ arguments :=
    match arguments with
    | [v] => f v
    | vs => .error (.arguments ("1 argument expected, " ++ Text.ofNat vs.length ++ " given"))

/-- The function that gives a text in upper case with an exclamation mark. -/
def shout : TemplateFunction :=
  ofOne fun
    | .text t => .ok (.text (Text.upper t ++ "!"))
    | .markup t => .ok (.markup (Text.upper t ++ "!"))
    | .undefined _ reason => .error (.undefinedUse reason)
    | v => .error (.thrown "AttributeError"
        (Text.quoted v.typeName ++ " object has no attribute " ++ Text.quoted "upper"))

/-- The function that makes markup of a value. -/
def markup : TemplateFunction := ofOne fun v => v.display.map .markup

/-- The function that shows its arguments with commas between them. -/
def joined : TemplateFunction where
  run _ arguments := (arguments.mapM Value.display).map fun parts => .text (Text.join "," parts)

end TemplateFunction

end ComponentTags
