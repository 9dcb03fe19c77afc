/-
# Types of fields

A field of a component has a type, of which only one thing matters: the empty value that the field
gets when nothing is given for it.  A type may also be named by an expression that is resolved when
the component is registered.  Most types are applied to others without a change, a union has no empty
value, and a name that does not exist leaves the expression unresolved.
-/
import ComponentTags.Scope.Token
import ComponentTags.Value.Failure

namespace ComponentTags

/-- The types of fields. -/
inductive FieldType where
  /-- Texts. -/
  | text
  /-- Markup. -/
  | markup
  /-- Whole numbers. -/
  | int
  /-- Binary fractions. -/
  | real
  /-- Truth values. -/
  | bool
  /-- Complex numbers. -/
  | complex
  /-- Sequences of bytes. -/
  | bytes
  /-- Lists. -/
  | list
  /-- Dictionaries. -/
  | dict
  /-- Sets. -/
  | set
  /-- Sets that never change. -/
  | frozenset
  /-- Tuples. -/
  | tuple
  /-- A type without an empty value. -/
  | anything
  /-- What belongs to the class and not to its instances, with or without a type of its own. -/
  | shared (typed : Bool)
  /-- A type named by an expression. -/
  | named (expression : Text)
deriving DecidableEq, Repr

namespace FieldType

/-- The empty value of a type. -/
def zero : FieldType → Value
  | text => .text []
  | markup => .markup []
  | int => .int 0
  | real => .real 0.0
  | bool => .bool false
  | complex => .complex "0j"
  | bytes => .bytes []
  | list => .list []
  | dict => .dict []
  | set => .set []
  | frozenset => .frozenset []
  | tuple => .tuple []
  | anything | shared _ | named _ => .none

/-- Whether a type belongs to the class and not to its instances. -/
def isShared : FieldType → Bool
  | shared _ => true
  | _ => false

end FieldType

/-! ## Expressions that name types -/

/-- An expression that names a type. -/
inductive TypeExpression where
  /-- A name. -/
  | name (name : Text)
  /-- A number, a text or an ellipsis. -/
  | constant
  /-- A type applied to others. -/
  | applied (head : TypeExpression) (arguments : List TypeExpression)
  /-- A part of something. -/
  | part (owner : TypeExpression)
  /-- One type or another. -/
  | union (left right : TypeExpression)
  /-- Several types where one is expected. -/
  | several (types : List TypeExpression)

namespace TypeExpression

mutual

/-- Reads types separated by bars; the result comes with the tokens behind it. -/
def readUnion : Nat → List Token → Option (TypeExpression × List Token)
  | 0, _ => none
  | fuel + 1, ts => do
    let (left, rest) ← readApplied fuel ts
    match rest with
    | t :: more =>
      if t.isSign "|" then
        let (right, rest) ← readUnion fuel more
        return (union left right, rest)
      else return (left, rest)
    | [] => return (left, rest)

/-- Reads a type with what it is applied to. -/
def readApplied : Nat → List Token → Option (TypeExpression × List Token)
  | 0, _ => none
  | _, [] => none
  | fuel + 1, t :: rest =>
    match t.kind with
    | .name =>
      if keywords.contains t.text && t.text != "None" && t.text != "True" && t.text != "False" then
        none
      else readBehind fuel (name t.text) rest
    | .number | .string => readBehind fuel constant rest
    | .sign =>
      if t.isSign "(" then do
        let (inner, rest) ← readUnion fuel rest
        match rest with
        | c :: more => if c.isSign ")" then readBehind fuel inner more else none
        | [] => none
      else if t.isSign "." && 2 ≤ rest.length && (rest.take 2).all (·.isSign ".") then
        some (constant, rest.drop 2)
      else none
    | .blank => none

/-- Reads what stands behind a type that it belongs to: arguments in brackets or the name of a
part. -/
def readBehind : Nat → TypeExpression → List Token → Option (TypeExpression × List Token)
  | 0, _, _ => none
  | _, head, [] => some (head, [])
  | fuel + 1, head, t :: rest =>
    if t.isSign "[" then do
      let (arguments, rest) ← readArguments fuel rest
      readBehind fuel (applied head arguments) rest
    else if t.isSign "." then
      match rest with
      | n :: more => if n.isName then readBehind fuel (part head) more else none
      | [] => none
    else some (head, t :: rest)

/-- Reads arguments up to their closing bracket. -/
def readArguments : Nat → List Token → Option (List TypeExpression × List Token)
  | 0, _ => none
  | fuel + 1, ts => do
    let (first, rest) ← readUnion fuel ts
    match rest with
    | t :: more =>
      if t.isSign "]" then return ([first], more)
      else if t.isSign "," then
        match more with
        | c :: behind =>
          if c.isSign "]" then return ([first], behind)
          else
            let (others, rest) ← readArguments fuel more
            return (first :: others, rest)
        | [] => failure
      else failure
    | [] => failure

end

/-- Reads several types separated by commas, up to the end. -/
def readSeveral : Nat → List Token → Option (List TypeExpression)
  | 0, _ => none
  | fuel + 1, ts => do
    let (first, rest) ← readUnion (4 * ts.length + 4) ts
    match rest with
    | [] => return [first]
    | [c] => if c.isSign "," then return [first, several []] else failure
    | c :: more =>
      if c.isSign "," then
        let others ← readSeveral fuel more
        return first :: others
      else failure

/-- The expression that a text is, if it is one. -/
def read? (text : Text) : Option TypeExpression := do
  let ts := significant (tokens text)
  match ← readSeveral (ts.length + 1) ts with
  | [e] => return e
  | es => return several es

end TypeExpression

/-! ## Resolving -/

/-- What a name means among types. -/
structure NamedType where
  /-- The type. -/
  type : FieldType
  /-- Whether the type can be applied to others. -/
  isGeneric : Bool := false
  /-- Whether the name means nothing unless it is applied to exactly one type. -/
  needsArgument : Bool := false

/-- The names that expressions may use, with their meanings. -/
def namedTypes : Table Text NamedType :=
  ([("str", ⟨.text, false, false⟩), ("int", ⟨.int, false, false⟩), ("float", ⟨.real, false, false⟩),
    ("bool", ⟨.bool, false, false⟩), ("complex", ⟨.complex, false, false⟩),
    ("bytes", ⟨.bytes, false, false⟩), ("list", ⟨.list, true, false⟩), ("dict", ⟨.dict, true, false⟩),
    ("set", ⟨.set, true, false⟩), ("frozenset", ⟨.frozenset, true, false⟩),
    ("tuple", ⟨.tuple, true, false⟩), ("object", ⟨.anything, false, false⟩),
    ("type", ⟨.anything, true, false⟩), ("range", ⟨.anything, false, false⟩),
    ("bytearray", ⟨.anything, false, false⟩), ("Exception", ⟨.anything, false, false⟩),
    ("ValueError", ⟨.anything, false, false⟩), ("None", ⟨.anything, false, false⟩),
    ("True", ⟨.anything, false, false⟩), ("False", ⟨.anything, false, false⟩),
    ("Markup", ⟨.markup, false, false⟩), ("List", ⟨.list, true, false⟩),
    ("Optional", ⟨.anything, true, true⟩)] : List (String × NamedType)).map
      fun (n, t) => (n.toList, t)

mutual

/-- The type that an expression names, if all its names have a meaning that fits their use. -/
def resolve? : TypeExpression → Option FieldType
  | .name n =>
    match namedTypes.get? n with
    | some t => if t.needsArgument then none else some t.type
    | none => none
  | .constant => some .anything
  | .applied (.name n) arguments =>
    match namedTypes.get? n with
    | some t =>
      if t.isGeneric && (!t.needsArgument || arguments.length = 1) && resolveAll arguments then
        some t.type
      else none
    | none => none
  | .applied _ _ => none
  | .part _ => none
  | .union a b =>
    match resolve? a, resolve? b with
    | some _, some _ => some .anything
    | _, _ => none
  | .several _ => none

/-- Whether all of some expressions name types. -/
def resolveAll : List TypeExpression → Bool
  | [] => true
  | e :: rest => (resolve? e).isSome && resolveAll rest

end

end ComponentTags
