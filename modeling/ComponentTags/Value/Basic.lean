/-
# Values

The values that templates compute with: those that components have in their fields, and those that
only exist while a template runs.  Functions and macros occur in values by number; what they are is
kept by the run.
-/
import ComponentTags.Number.Decimal
import ComponentTags.Table
import ComponentTags.Text.Quoted

namespace ComponentTags

/-- What a component writes in place of its output when its template fails. -/
structure Recovery where
  /-- The text, in which the kind and the message of the failure are filled in. -/
  text : Text
  /-- The message with which the recovery itself fails after that, if it does. -/
  failure : Option Text := none
deriving DecidableEq, Repr

/-- The values that can be called. -/
inductive Callable where
  /-- A function that was given to the engine. -/
  | function (number : Nat)
  /-- A macro of a template. -/
  | macroCall (number : Nat) (name : Text)
  /-- The function that renders a component. -/
  | renderer
  /-- The function that makes the context of a content. -/
  | scopeMaker
  /-- The function that counts. -/
  | counting
deriving DecidableEq, Repr

/-- A value. -/
inductive Value where
  /-- The absent value. -/
  | none
  /-- A truth value. -/
  | bool (b : Bool)
  /-- A whole number. -/
  | int (n : Int)
  /-- A binary fraction. -/
  | real (x : Float)
  /-- A complex number, by its text. -/
  | complex (text : Text)
  /-- A text. -/
  | text (t : Text)
  /-- A text that is markup already and is never escaped. -/
  | markup (t : Text)
  /-- A sequence of bytes. -/
  | bytes (data : List UInt8)
  /-- A list. -/
  | list (items : List Value)
  /-- A tuple. -/
  | tuple (items : List Value)
  /-- A set. -/
  | set (items : List Value)
  /-- A set that never changes. -/
  | frozenset (items : List Value)
  /-- A dictionary, in the order of its keys. -/
  | dict (entries : List (Value × Value))
  /-- The value of a name or an attribute that does not exist.  A strict one cannot even be shown. -/
  | undefined (strict : Bool) (reason : Text)
  /-- A component of a type that a module defines, with the names of the fields that are listed when it
  is shown. -/
  | component (home type : Text) (listed : Option (List Text)) (members : List (Text × Value))
      (recovery : Option Recovery)
  /-- The context of a content: the component whose template it stands in, the rendered component and
  the captured variables. -/
  | context (dot root : Value) (locals : List (Text × Value))
  /-- A value that can be called. -/
  | callable (c : Callable)
  /-- An operation of a value. -/
  | method (receiver : Value) (name : Text)
  /-- The state of a loop: the place of the current item and all items. -/
  | loop (place : Nat) (items : List Value)
  /-- The numbers from `start` up or down to `stop`. -/
  | range (start stop step : Int)
  /-- The entries of a dictionary. -/
  | entries (entries : List (Value × Value))
  /-- A value of another type. -/
  | other (type : Text)
deriving Inhabited

namespace Value

/-- The name of the type of a value, as messages have it. -/
def typeName : Value → Text
  | none => "NoneType"
  | bool _ => "bool"
  | int _ => "int"
  | real _ => "float"
  | complex _ => "complex"
  | text _ => "str"
  | markup _ => "Markup"
  | bytes _ => "bytes"
  | list _ => "list"
  | tuple _ => "tuple"
  | set _ => "set"
  | frozenset _ => "frozenset"
  | dict _ => "dict"
  | undefined strict _ => if strict then "StrictUndefined" else "Undefined"
  | component _ type .. => type
  | context .. => "BlockContext"
  | callable (.macroCall ..) => "Macro"
  | callable .counting => "type"
  | callable .renderer | method (context ..) _ => "method"
  | callable _ => "function"
  | method .. => "builtin_function_or_method"
  | loop .. => "LoopContext"
  | range .. => "range"
  | entries _ => "dict_items"
  | other type => type

/-- The module that the built-in types belong to. -/
def builtinHome : Text := "builtins"

/-- The module that defines the type of a value. -/
def home : Value → Text
  | markup _ => "markupsafe"
  | component home .. => home
  | context .. => "glam.runtime.context"
  | undefined .. | loop .. | callable (.macroCall ..) => "jinja2.runtime"
  | _ => builtinHome

/-- A value as the owner of a missing attribute, in messages. -/
def ownerName : Value → Text
  | none => "None"
  | v => (if v.home = builtinHome then v.typeName else v.home ++ "." ++ v.typeName) ++ " object"

/-- The text of a value that is a text, marked up or not. -/
def asText? : Value → Option Text
  | text t | markup t => some t
  | _ => Option.none

/-- The whole number that a value is; truth values count as one and zero. -/
def asInt? : Value → Option Int
  | int n => some n
  | bool b => some (if b then 1 else 0)
  | _ => Option.none

/-- The binary fraction that a number is. -/
def asReal? : Value → Option Float
  | real x => some x
  | v => v.asInt?.map Float.ofInt

/-- The number of numbers in a range. -/
def rangeLength (start stop step : Int) : Nat :=
  if 0 < step then ((stop - start + step - 1).fdiv step).toNat
  else if step < 0 then ((start - stop - step - 1).fdiv (-step)).toNat
  else 0

/-- The numbers in a range. -/
def rangeItems (start stop step : Int) : List Value :=
  (List.range (rangeLength start stop step)).map fun (i : Nat) => int (start + step * (i : Int))

/-- The number of items of a value, if it has items. -/
def length? : Value → Option Nat
  | text t | markup t => some t.length
  | bytes data => some data.length
  | list items | tuple items | set items | frozenset items => some items.length
  | dict es | entries es => some es.length
  | range start stop step => some (rangeLength start stop step)
  | _ => Option.none

/-- Whether a value counts as true. -/
def truth (v : Value) : Bool :=
  match v with
  | none => false
  | bool b => b
  | int n => n != 0
  | real x => x != 0.0
  | complex t => t != "0j"
  | undefined .. => false
  | v => v.length?.all (· != 0)

/-- Captured variables as a dictionary. -/
def ofLocals (locals : List (Text × Value)) : Value := dict (locals.map fun (k, v) => (text k, v))

end Value

end ComponentTags
