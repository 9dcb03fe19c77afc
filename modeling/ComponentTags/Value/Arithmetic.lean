/-
# Operators

The arithmetic operators on values.  Numbers are added and multiplied, sequences of one type are
joined, and a sequence can be repeated.  Markup stays markup: what is joined to it is escaped.
-/
import ComponentTags.Value.Compare
import ComponentTags.Value.Write

namespace ComponentTags.Value

/-- The arithmetic operators. -/
inductive Operator where
  /-- Addition. -/
  | add
  /-- Subtraction. -/
  | sub
  /-- Multiplication. -/
  | mul
  /-- Division to a fraction. -/
  | div
  /-- Division to a whole number. -/
  | floorDiv
  /-- The remainder of such a division. -/
  | mod
  /-- Raising to a power. -/
  | pow
deriving DecidableEq, Repr

namespace Operator

/-- The sign of an operator, as messages have it. -/
def sign : Operator → Text
  | add => "+"
  | sub => "-"
  | mul => "*"
  | div => "/"
  | floorDiv => "//"
  | mod => "%"
  | pow => "** or pow()"

end Operator

/-- An operator on whole numbers. -/
def onInts (o : Operator) (a b : Int) : Except Failure Value :=
  match o with
  | .add => .ok (int (a + b))
  | .sub => .ok (int (a - b))
  | .mul => .ok (int (a * b))
  | .div =>
    if b = 0 then .error (.divisionByZero "division by zero")
    else .ok (real (Float.ofInt a / Float.ofInt b))
  | .floorDiv =>
    if b = 0 then .error (.divisionByZero "integer division or modulo by zero")
    else .ok (int (a.fdiv b))
  | .mod =>
    if b = 0 then .error (.divisionByZero "integer modulo by zero") else .ok (int (a.fmod b))
  | .pow =>
    if 0 ≤ b then .ok (int (Int.pow a b.toNat))
    else if a = 0 then .error (.divisionByZero "0.0 cannot be raised to a negative power")
    else .ok (real (Float.pow (Float.ofInt a) (Float.ofInt b)))

/-- An operator on fractions. -/
def onReals (o : Operator) (a b : Float) : Except Failure Value :=
  match o with
  | .add => .ok (real (a + b))
  | .sub => .ok (real (a - b))
  | .mul => .ok (real (a * b))
  | .div =>
    if b == 0.0 then .error (.divisionByZero "float division by zero") else .ok (real (a / b))
  | .floorDiv =>
    if b == 0.0 then .error (.divisionByZero "float floor division by zero")
    else .ok (real (Float.floor (a / b)))
  | .mod =>
    if b == 0.0 then .error (.divisionByZero "float modulo")
    else .ok (real (a - b * Float.floor (a / b)))
  | .pow => .ok (real (Float.pow a b))

/-- A value repeated, if it is a sequence. -/
def repeated? (v : Value) (count : Int) : Option Value :=
  match v with
  | text t => some (text (Text.replicate count.toNat t))
  | markup t => some (markup (Text.replicate count.toNat t))
  | list items => some (list (List.replicate count.toNat items).flatten)
  | tuple items => some (tuple (List.replicate count.toNat items).flatten)
  | bytes data => some (bytes (List.replicate count.toNat data).flatten)
  | _ => Option.none

/-- Whether a value is a sequence. -/
def isSequence : Value → Bool
  | text _ | markup _ | list _ | tuple _ | bytes _ => true
  | _ => false

/-- Two values joined, if the first is a sequence or the second is markup. -/
def joined? (a b : Value) : Option (Except Failure Value) :=
  match a, b with
  | markup s, text t => some (.ok (markup (s ++ escapedText t)))
  | markup s, markup t => some (.ok (markup (s ++ t)))
  | markup _, _ => Option.none
  | text s, markup t => some (.ok (markup (escapedText s ++ t)))
  | text s, text t => some (.ok (text (s ++ t)))
  | text _, b => some (.error (.concatenation "str" b.typeName))
  | list xs, list ys => some (.ok (list (xs ++ ys)))
  | tuple xs, tuple ys => some (.ok (tuple (xs ++ ys)))
  | bytes xs, bytes ys => some (.ok (bytes (xs ++ ys)))
  | list _, b | tuple _, b => some (.error (.concatenation a.typeName b.typeName))
  | _, _ => Option.none

/-- An operator on two values. -/
def operate (o : Operator) (a b : Value) : Except Failure Value :=
  match a, b with
  | undefined _ reason, _ | _, undefined _ reason => .error (.undefinedUse reason)
  | a, b =>
    match a.asInt?, b.asInt? with
    | some n, some m => onInts o n m
    | n, m =>
      match a.asReal?, b.asReal? with
      | some x, some y => onReals o x y
      | _, _ =>
        let refused : Except Failure Value := .error (.operands o.sign a.typeName b.typeName)
        match o with
        | .add => (joined? a b).getD refused
        | .mul =>
          match m.bind a.repeated?, n.bind b.repeated? with
          | some v, _ | _, some v => .ok v
          | _, _ =>
            if a.isSequence then .error (.repetition b.typeName)
            else if b.isSequence then .error (.repetition a.typeName)
            else refused
        | _ => refused

/-- A value with a sign in front. -/
def signed (negative : Bool) (v : Value) : Except Failure Value :=
  match v with
  | undefined _ reason => .error (.undefinedUse reason)
  | real x => .ok (real (if negative then -x else x))
  | v =>
    match v.asInt? with
    | some n => .ok (int (if negative then -n else n))
    | Option.none => .error (.operand (if negative then "-" else "+") v.typeName)

end ComponentTags.Value
