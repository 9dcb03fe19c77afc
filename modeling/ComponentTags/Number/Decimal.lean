/-
# Decimal notation of binary fractions

A binary fraction is written with the fewest decimal digits that read back to it, and among those the
nearest.  All comparisons are exact: a fraction is a natural number times a power of two, and a
decimal number lies between two such numbers or it does not.

The notation is positional while the leading digit stands between the fourth place behind the point
and the sixteenth place in front of it, and otherwise has an exponent with a sign and at least two
digits.
-/
import ComponentTags.Text.Basic

namespace ComponentTags.Decimal

/-- A power of two. -/
def twoTo (n : Nat) : Nat := Nat.pow 2 n

/-- A power of ten. -/
def tenTo (n : Nat) : Nat := Nat.pow 10 n

/-- A finite fraction that is not negative: `mantissa * 2 ^ exponent`. -/
structure Binary where
  /-- The mantissa. -/
  mantissa : Nat
  /-- The power of two. -/
  exponent : Int
  /-- Whether the next smaller fraction is only half as far away as the next greater one. -/
  narrowBelow : Bool

/-- The fraction with the given bits, its sign left out. -/
def Binary.ofBits (bits : UInt64) : Binary :=
  let e := ((bits >>> 52) &&& 0x7FF).toNat
  let f := (bits &&& 0xFFFFFFFFFFFFF).toNat
  if e == 0 then ⟨f, -1074, false⟩ else ⟨twoTo 52 + f, (e : Int) - 1075, f == 0 && e > 1⟩

/-- Compares `a * 10 ^ i` with `n * 2 ^ j`. -/
def compareScaled (a : Nat) (i : Int) (n : Nat) (j : Int) : Ordering :=
  compare (a * tenTo i.toNat * twoTo (-j).toNat) (n * twoTo j.toNat * tenTo (-i).toNat)

/-- Whether `digits * 10 ^ scale` is nearer to a fraction than to its neighbours.  A number halfway
between two fractions belongs to the one with the even mantissa. -/
def Binary.readsBack (x : Binary) (digits : Nat) (scale : Int) : Bool :=
  let below := if x.narrowBelow then 4 * x.mantissa - 1 else 4 * x.mantissa - 2
  let above := 4 * x.mantissa + 2
  let even := x.mantissa % 2 == 0
  let low := compareScaled digits scale below (x.exponent - 2)
  let high := compareScaled digits scale above (x.exponent - 2)
  (low == .gt || (even && low == .eq)) && (high == .lt || (even && high == .eq))

/-- The least power of ten above a fraction that is not zero. -/
def Binary.scale (x : Binary) : Int :=
  let guess := ((Nat.log2 x.mantissa : Int) + x.exponent) * 30103 / 100000
  (([guess - 1, guess, guess + 1, guess + 2, guess + 3] : List Int).find? fun k =>
    compareScaled 1 k x.mantissa x.exponent == .gt).getD guess

/-- The multiple of `10 ^ scale` that reads back to a fraction, if there is one; of two the nearer,
and halfway between them the even one. -/
def Binary.onGrid? (x : Binary) (scale : Int) : Option Nat :=
  let num := x.mantissa * twoTo x.exponent.toNat * tenTo (-scale).toNat
  let den := twoTo (-x.exponent).toNat * tenTo scale.toNat
  let low := num / den
  match x.readsBack low scale, x.readsBack (low + 1) scale with
  | true, true =>
    match compare (2 * num) ((2 * low + 1) * den) with
    | .lt => some low
    | .gt => some (low + 1)
    | .eq => some (if low % 2 == 0 then low else low + 1)
  | true, false => some low
  | false, true => some (low + 1)
  | false, false => none

/-- The fewest digits that read back to a fraction that is not zero, with the power of ten that they
count. -/
def Binary.shortest (x : Binary) : Nat × Int :=
  let k := x.scale
  (((List.range 17).map fun (n : Nat) => k - ((n : Int) + 1)).findSome? fun scale =>
    (x.onGrid? scale).map fun digits => (digits, scale)).getD (x.mantissa, x.exponent)

/-- Digits with the power of ten that the last of them counts, as text. -/
def layout (digits : Nat) (scale : Int) : Text :=
  let all := Text.ofNat digits
  let shown := (all.reverse.dropWhile (· == '0')).reverse
  let lead : Int := all.length + scale - 1
  if -4 ≤ lead && lead < 16 then
    if lead < 0 then "0." ++ List.replicate (-lead - 1).toNat '0' ++ shown
    else
      let whole := lead.toNat + 1
      if shown.length ≤ whole then shown ++ List.replicate (whole - shown.length) '0' ++ ".0"
      else shown.take whole ++ "." ++ shown.drop whole
  else
    let exponent := Text.ofNat lead.natAbs
    shown.take 1 ++ (if shown.length ≤ 1 then [] else '.' :: shown.drop 1) ++ "e" ++
      (if lead < 0 then ['-'] else ['+']) ++ (if exponent.length < 2 then '0' :: exponent else exponent)

/-- A binary fraction as text. -/
def ofFloat (x : Float) : Text :=
  let bits := x.toBits
  let sign : Text := if bits >>> 63 == 1 then ['-'] else []
  if x.isNaN then "nan"
  else if x.isInf then sign ++ "inf"
  else
    let b := Binary.ofBits bits
    if b.mantissa == 0 then sign ++ "0.0"
    else
      let (digits, scale) := b.shortest
      sign ++ layout digits scale

/-- The value of some decimal digits. -/
def digitsValue (text : Text) : Nat :=
  text.foldl (fun n c => if c.isDigit then 10 * n + (c.toNat - '0'.toNat) else n) 0

/-- The binary fraction nearest to a number in decimal notation, which may have a sign, a point and an
exponent. -/
def toFloat (text : Text) : Float :=
  match text with
  | '-' :: rest => -(unsigned rest)
  | '+' :: rest => unsigned rest
  | _ => unsigned text
where
  /-- The number without a sign. -/
  unsigned (text : Text) : Float :=
    if text = "inf" then 1.0 / 0.0
    else if text = "nan" then 0.0 / 0.0
    else
      let isMark (c : Char) : Bool := c == 'e' || c == 'E'
      let number := text.takeWhile (!isMark ·)
      let exponent : Int :=
        match (text.dropWhile (!isMark ·)).drop 1 with
        | '-' :: rest => -(digitsValue rest : Int)
        | rest => digitsValue rest
      let places : Int := ((number.dropWhile (· != '.')).filter Char.isDigit).length
      let scale := exponent - places
      Float.ofScientific (digitsValue number) (decide (scale < 0)) scale.natAbs

end ComponentTags.Decimal
