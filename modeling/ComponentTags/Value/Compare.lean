/-
# Comparing values

When two values are equal and which of them comes first.  Numbers are equal when they count the same,
whatever their type, and a text equals the markup of the same characters.
-/
import ComponentTags.Value.Failure

namespace ComponentTags.Value

/-- Whether every value of a list satisfies `test` with one of another list. -/
def allAmong (test : Value → Value → Bool) (xs ys : List Value) : Bool :=
  xs.all fun x => ys.any (test x)

/-- Equality of values that are nested no deeper than `depth`. -/
def equalWithin : Nat → Value → Value → Bool
  | 0, _, _ => false
  | depth + 1, a, b =>
    let same := equalWithin depth
    let sameItems (xs ys : List Value) : Bool :=
      xs.length == ys.length && (xs.zip ys).all fun (x, y) => same x y
    let sameEntries (xs ys : List (Value × Value)) : Bool :=
      xs.length == ys.length &&
        xs.all fun (k, v) => ys.any fun (l, w) => same k l && same v w
    let sameSet (xs ys : List Value) : Bool :=
      xs.length == ys.length && allAmong same xs ys
    match a, b with
    | none, none => true
    | text s, text t | text s, markup t | markup s, text t | markup s, markup t => s == t
    | complex s, complex t => s == t
    | bytes s, bytes t => s == t
    | list xs, list ys | tuple xs, tuple ys => sameItems xs ys
    | set xs, set ys | set xs, frozenset ys | frozenset xs, set ys | frozenset xs, frozenset ys =>
      sameSet xs ys
    | dict xs, dict ys => sameEntries xs ys
    | entries xs, entries ys => sameEntries xs ys
    | undefined .., undefined .. => true
    | component h s (some _) xs _, component k t (some _) ys _ =>
      h == k && s == t && sameItems (xs.map Prod.snd) (ys.map Prod.snd)
    | context d r l, context d' r' l' =>
      same d d' && same r r' && same (ofLocals l) (ofLocals l')
    | callable c, callable c' => c == c'
    | loop n xs, loop m ys => n == m && xs.length == ys.length
    | range a b c, range d e f => sameItems (rangeItems a b c) (rangeItems d e f)
    | a, b =>
      match a.asInt?, b.asInt? with
      | some n, some m => n == m
      | _, _ =>
        match a.asReal?, b.asReal? with
        | some x, some y => x == y
        | _, _ => false

mutual

/-- How deeply a value is nested. -/
def depth : Value → Nat
  | list items | tuple items | set items | frozenset items => depthOfItems items + 1
  | dict es | entries es => depthOfEntries es + 1
  | component _ _ _ members _ => depthOfMembers members + 1
  | context dot root locals => dot.depth + root.depth + depthOfMembers locals + 3
  | _ => 1

/-- The greatest depth of some values. -/
def depthOfItems : List Value → Nat
  | [] => 0
  | v :: rest => max v.depth (depthOfItems rest)

/-- The greatest depth of the keys and values of some entries. -/
def depthOfEntries : List (Value × Value) → Nat
  | [] => 0
  | (k, v) :: rest => max (max k.depth v.depth) (depthOfEntries rest)

/-- The greatest depth of some named values. -/
def depthOfMembers : List (Text × Value) → Nat
  | [] => 0
  | (_, v) :: rest => max v.depth (depthOfMembers rest)

end

/-- Whether two values are equal. -/
def equal (a b : Value) : Bool := equalWithin (a.depth + 1) a b

/-- Whether a value can be a key. -/
def isHashable : Value → Bool
  | list _ | set _ | dict _ | entries _ => false
  | tuple items => !items.any fun
    | list _ | set _ | dict _ => true
    | _ => false
  | _ => true

/-- The signs of the four comparisons of order. -/
inductive Order where
  /-- The first value comes first. -/
  | less
  /-- The first value comes first or both are equal. -/
  | lessOrEqual
  /-- The second value comes first. -/
  | greater
  /-- The second value comes first or both are equal. -/
  | greaterOrEqual
deriving DecidableEq, Repr

namespace Order

/-- The sign of a comparison. -/
def sign : Order → Text
  | less => "<"
  | lessOrEqual => "<="
  | greater => ">"
  | greaterOrEqual => ">="

/-- Whether a comparison holds of two things that are so ordered. -/
def holds : Order → Ordering → Bool
  | less, .lt | lessOrEqual, .lt | lessOrEqual, .eq => true
  | greater, .gt | greaterOrEqual, .gt | greaterOrEqual, .eq => true
  | _, _ => false

end Order

/-- The order of two texts by their code points. -/
def orderOfTexts (s t : Text) : Ordering := compare (s.map Char.toNat) (t.map Char.toNat)

/-- The first place at which two sequences differ. -/
def firstDifference : List Value → List Value → Option (Value × Value)
  | a :: as, b :: bs => if equal a b then firstDifference as bs else some (a, b)
  | _, _ => Option.none

/-- Whether a comparison holds of two values that are nested no deeper than `depth`. -/
def orderedWithin (o : Order) : Nat → Value → Value → Except Failure Bool
  | 0, a, b => .error (.order o.sign a.typeName b.typeName)
  | depth + 1, a, b =>
    let sequences (xs ys : List Value) : Except Failure Bool :=
      match firstDifference xs ys with
      | some (x, y) => orderedWithin o depth x y
      | .none => .ok (o.holds (compare xs.length ys.length))
    match a, b with
    | undefined _ reason, _ | _, undefined _ reason => .error (.undefinedUse reason)
    | text s, text t | text s, markup t | markup s, text t | markup s, markup t =>
      .ok (o.holds (orderOfTexts s t))
    | list xs, list ys | tuple xs, tuple ys => sequences xs ys
    | a, b =>
      match a.asInt?, b.asInt? with
      | some n, some m => .ok (o.holds (compare n m))
      | _, _ =>
        match a.asReal?, b.asReal? with
        | some x, some y =>
          .ok (match o with
            | .less => x < y
            | .lessOrEqual => x ≤ y
            | .greater => x > y
            | .greaterOrEqual => x ≥ y)
        | _, _ => .error (.order o.sign a.typeName b.typeName)

/-- Whether a comparison holds of two values. -/
def ordered (o : Order) (a b : Value) : Except Failure Bool := orderedWithin o (a.depth + 1) a b

end ComponentTags.Value
