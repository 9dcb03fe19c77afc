/-
# Access

The parts of a value: its attributes, its items, and what is found by going through it.  Where a
template asks for a part, an attribute that does not exist is looked for among the items and the
other way round, and what exists in neither way is a missing value.
-/
import ComponentTags.Value.Arithmetic

namespace ComponentTags.Value

/-- What stands for a missing value: one that is shown as nothing, or a strict one. -/
structure Missing where
  /-- Whether missing values cannot even be shown. -/
  strict : Bool := false
deriving DecidableEq, Repr

namespace Missing

/-- The value of a name that does not exist. -/
def name (m : Missing) (n : Text) : Value := undefined m.strict (Text.quoted n ++ " is undefined")

/-- A missing value for a reason. -/
def reason (m : Missing) (r : Text) : Value := undefined m.strict r

/-- The value of a part that does not exist, given the key under which it was looked for. -/
def part (m : Missing) (owner key : Value) : Value :=
  match key with
  | text n | markup n =>
    undefined m.strict (Text.quoted owner.ownerName ++ " has no attribute " ++ Text.quoted n)
  | key => undefined m.strict (owner.ownerName ++ " has no element " ++ key.written)

end Missing

/-- The attributes of the state of a loop. -/
def loopAttribute? (place : Nat) (items : List Value) (name : Text) : Option Value :=
  let last := items.length - 1
  if name = "index" then some (int (place + 1 : Nat))
  else if name = "index0" then some (int place)
  else if name = "first" then some (bool (place == 0))
  else if name = "last" then some (bool (place == last))
  else if name = "length" then some (int items.length)
  else if name = "revindex" then some (int (last - place + 1 : Nat))
  else if name = "revindex0" then some (int (last - place : Nat))
  else if name = "previtem" then if place = 0 then Option.none else items[place - 1]?
  else if name = "nextitem" then items[place + 1]?
  else if name = "depth" then some (int 1)
  else if name = "depth0" then some (int 0)
  else Option.none

/-- The operations of a dictionary. -/
def dictOperations : List Text := ["items", "keys", "values", "get"]

/-- The attribute of a value.  The use of an attribute of a missing value is a failure. -/
def attribute? (v : Value) (name : Text) : Except Failure (Option Value) :=
  match v with
  | undefined _ reason => .error (.undefinedUse reason)
  | component _ _ _ members _ => .ok (Table.get? name members)
  | context dot root locals =>
    if name = "dot" then .ok (some dot)
    else if name = "root" then .ok (some root)
    else if name = "locals" then .ok (some (ofLocals locals))
    else if name = "extend" then .ok (some (method v name))
    else .ok Option.none
  | dict _ => .ok (if dictOperations.contains name then some (method v name) else Option.none)
  | loop place items => .ok (loopAttribute? place items name)
  | _ => .ok Option.none

/-- The item at a place of a sequence; a negative place counts from the end. -/
def itemAt? (items : List Value) (place : Int) : Option Value :=
  let i := if place < 0 then place + items.length else place
  if i < 0 then Option.none else items[i.toNat]?

/-- The value of a key among entries. -/
def entryOf? (es : List (Value × Value)) (key : Value) : Option Value :=
  (es.find? fun (k, _) => equal k key).map Prod.snd

/-- The item of a value under a key, if there is one. -/
def item? (v key : Value) : Except Failure (Option Value) :=
  match v with
  | undefined _ reason => .error (.undefinedUse reason)
  | dict es => .ok (if key.isHashable then entryOf? es key else Option.none)
  | v =>
    match key.asInt? with
    | Option.none => .ok Option.none
    | some i =>
      match v with
      | list items | tuple items => .ok (itemAt? items i)
      | text t => .ok (itemAt? (t.map fun c => text [c]) i)
      | markup t => .ok (itemAt? (t.map fun c => markup [c]) i)
      | bytes data => .ok (itemAt? (data.map fun b => int b.toNat) i)
      | range start stop step => .ok (itemAt? (rangeItems start stop step) i)
      | _ => .ok Option.none

/-- What a template means by an attribute of a value. -/
def lookUpAttribute (m : Missing) (v : Value) (name : Text) : Except Failure Value := do
  match ← v.attribute? name with
  | some found => return found
  | .none =>
    match ← v.item? (text name) with
    | some found => return found
    | .none => return m.part v (text name)

/-- What a template means by an item of a value. -/
def lookUpItem (m : Missing) (v key : Value) : Except Failure Value := do
  match ← v.item? key with
  | some found => return found
  | .none =>
    match key.asText? with
    | some name =>
      match ← v.attribute? name with
      | some found => return found
      | .none => return m.part v key
    | .none => return m.part v key

/-- The items of a value, in the order in which it is gone through. -/
def items (v : Value) : Except Failure (List Value) :=
  match v with
  | list items | tuple items | set items | frozenset items => .ok items
  | text t | markup t => .ok (t.map fun c => text [c])
  | bytes data => .ok (data.map fun b => int b.toNat)
  | dict es => .ok (es.map Prod.fst)
  | entries es => .ok (es.map fun (k, v) => tuple [k, v])
  | range start stop step => .ok (rangeItems start stop step)
  | undefined strict reason => if strict then .error (.undefinedUse reason) else .ok []
  | v => .error (.notIterable v.typeName)

/-- The length of a value. -/
def length (v : Value) : Except Failure Nat :=
  match v with
  | undefined strict reason => if strict then .error (.undefinedUse reason) else .ok 0
  | v =>
    match v.length? with
    | some n => .ok n
    | .none => .error (.noLength v.typeName)

/-- Whether a value is among the items of another. -/
def contains (container v : Value) : Except Failure Bool :=
  match container with
  | text t | markup t =>
    match v with
    | undefined _ _ => .error (.notSubtext v.typeName)
    | v =>
      match v.asText? with
      | some s => .ok (Text.index? s t).isSome
      | .none => .error (.notSubtext v.typeName)
  | dict es =>
    if v.isHashable then .ok (es.any fun (k, _) => equal k v) else .error (.unhashable v.typeName)
  | set items | frozenset items =>
    if v.isHashable then .ok (items.any (equal v)) else .error (.unhashable v.typeName)
  | undefined true reason => .error (.undefinedUse reason)
  | container =>
    match container.items with
    | .ok items =>
      match v, items with
      | undefined true reason, _ :: _ => .error (.undefinedUse reason)
      | v, items => .ok (items.any (equal v))
    | .error _ => .error (.notContainer container.typeName)

/-- Whether a value counts as true; asking that of a strict missing value is a failure. -/
def decide (v : Value) : Except Failure Bool :=
  match v with
  | undefined true reason => .error (.undefinedUse reason)
  | v => .ok v.truth

/-- The items of a slice of a sequence, given its bounds and its step. -/
def sliced {α : Type} (xs : List α) (start stop step : Option Int) : List α :=
  let n : Int := xs.length
  let stride := step.getD 1
  let clamp (low high i : Int) : Int :=
    let i := if i < 0 then i + n else i
    max low (min high i)
  if 0 < stride then
    let first := (start.map (clamp 0 n)).getD 0
    let last := (stop.map (clamp 0 n)).getD n
    (List.range (rangeLength first last stride)).filterMap fun (i : Nat) =>
      xs[(first + stride * (i : Int)).toNat]?
  else
    let first := (start.map (clamp (-1) (n - 1))).getD (n - 1)
    let last := (stop.map (clamp (-1) (n - 1))).getD (-1)
    (List.range (rangeLength first last stride)).filterMap fun (i : Nat) =>
      xs[(first + stride * (i : Int)).toNat]?

end ComponentTags.Value
