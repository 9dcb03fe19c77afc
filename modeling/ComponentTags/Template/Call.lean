/-
# The template language

What calls do that are not for the engine: macros, the function that counts, and the operations of
dictionaries.  With them the language of these modules is complete.
-/
import ComponentTags.Template.Execute

namespace ComponentTags.Template

/-- The function that counts, under its name. -/
def rangeName : Text := "range"

/-- The numbers that a call of the counting function means. -/
def countingRange (arguments : List Value) : Except Failure Value := do
  let number (v : Value) : Except Failure Int :=
    match v.asInt? with
    | some n => .ok n
    | none => .error (.notInteger v.typeName)
  match arguments with
  | [stop] => return .range 0 (← number stop) 1
  | [start, stop] => return .range (← number start) (← number stop) 1
  | [start, stop, step] =>
    let first ← number start
    let last ← number stop
    let stride ← number step
    if stride = 0 then throw (.unsuitable "range() arg 3 must not be zero")
    return .range first last stride
  | [] => throw (.arguments "range expected at least 1 argument, got 0")
  | vs =>
    throw (.arguments ("range expected at most 3 arguments, got " ++ Text.ofNat vs.length))

/-- Calls an operation of a value. -/
def callMethod (receiver : Value) (name : Text) (a : Arguments) : Except Failure Value := do
  match receiver, a.placed, a.named with
  | .dict es, [], [] =>
    if name = "items" then return .entries es
    else if name = "keys" then return .list (es.map Prod.fst)
    else if name = "values" then return .list (es.map Prod.snd)
    else throw (.arguments (name ++ "() takes other arguments"))
  | .dict es, [key], [] =>
    if name = "get" then return (Value.entryOf? es key).getD .none
    else throw (.arguments (name ++ "() takes other arguments"))
  | .dict es, [key, alternative], [] =>
    if name = "get" then return (Value.entryOf? es key).getD alternative
    else throw (.arguments (name ++ "() takes other arguments"))
  | _, _, _ => throw (.arguments (name ++ "() takes other arguments"))

/-- What a call of a value does that is not for the engine. -/
def callValue (s : Setting) (call : Caller) (callee : Value) (a : Arguments) : Action Value :=
  match callee with
  | .callable (.macroCall number name) => callMacro s call number name a
  | .callable .counting => Action.unnamed a fun vs => Action.of (countingRange vs)
  | .method receiver name => Action.of (callMethod receiver name a)
  | .undefined _ reason => Action.fail (.undefinedUse reason)
  | v => Action.fail (.notCallable v.typeName)

/-- The template language. -/
@[reducible] def language : Language where
  Tree := List Statement
  Memory := Memory
  Place := Place
  read d lowered := (accept d lowered).mapError .rejected
  mentions := mentionsAll
  globals := [(rangeName, .callable .counting)]
  empty := {}
  running := Memory.running
  value? s m p n := m.value? s p n
  lookUp? s m p n := m.lookUp? s p n
  run := execTemplate
  call s call _ callee a := callValue s call callee a

end ComponentTags.Template
