import Tileboard.Text.Numeral

/-!
Decimal numbers as 64-bit floating-point numbers, and back.

`Double.ofDecimal?` scales a rounded significand by one rounded power of ten, so a result with many
digits can be one unit off the nearest number.  `Double.digits` gives the fewest digits that lie
between the neighbours' midpoints, and `Double.text` writes them.
-/

namespace Tileboard.Decimal.Double

/-! ## From decimal -/

/-- The floating-point number nearest to a power of ten. -/
def tenTo (n : Nat) : Float :=
  Float.ofScientific 1 false n

/-- A number divided by a power of ten, in steps of 308 digits while it is not zero. -/
def divideByTenTo (x : Float) (n : Nat) : Float :=
  if n ≤ 308 then x / tenTo n
  else if x == 0 then x
  else divideByTenTo (x / tenTo 308) (n - 308)
termination_by n

/-- A number multiplied by a power of ten; none if the product has no finite value. -/
def multiplyByTenTo? (x : Float) (n : Nat) : Option Float :=
  if n ≤ 308 then
    let product := x * tenTo n
    if product.isInf then none else some product
  else if x == 0 then some x
  else none

/-- The significand times ten to the scale; none if that is too large. -/
def ofDecimal? (significand : Nat) (scale : Int) : Option Float :=
  match scale with
  | .ofNat n => multiplyByTenTo? (Float.ofNat significand) n
  | .negSucc n => some (divideByTenTo (Float.ofNat significand) (n + 1))

/-! ## The fewest digits -/

/-- A positive floating-point number with the midpoints to its neighbours, all as multiples of
`1 / unit`. -/
structure Range where
  low : Nat
  middle : Nat
  high : Nat
  unit : Nat
  closed : Bool

/-- The range of numbers that round to the given one; its ends do so if the mantissa is even. -/
def range (x : Float) : Range :=
  let bits := x.toBits.toNat
  let field := bits / Nat.pow 2 52 % Nat.pow 2 11
  let fraction := bits % Nat.pow 2 52
  let mantissa := if field = 0 then fraction else Nat.pow 2 52 + fraction
  -- the mantissa counts units of 2 ^ (exponent - 1075)
  let exponent := max field 1
  let lowGap := if fraction = 0 ∧ 1 < field then 1 else 2
  let up := Nat.pow 2 (exponent - 1077)
  let down := Nat.pow 2 (1077 - exponent)
  ⟨(4 * mantissa - lowGap) * up, 4 * mantissa * up, (4 * mantissa + 2) * up, down,
    mantissa % 2 == 0⟩

/-- Whether the fraction `n / d` lies in the range. -/
def Range.contains (r : Range) (n d : Nat) : Bool :=
  if r.closed then r.low * d ≤ n * r.unit && n * r.unit ≤ r.high * d
  else r.low * d < n * r.unit && n * r.unit < r.high * d

/-- The exponent of the first decimal digit of a positive fraction `n / d`. -/
def leadingExponent (n d : Nat) : Int :=
  if d ≤ n then (Text.Numeral.write (n / d)).length - 1
  else
    match (List.range 400).find? fun k => d ≤ n * Nat.pow 10 k with
    | some k => -k
    | none => 0

/-- The multiple of ten to the scale that is nearest to the middle of the range, if one of the two
next to it lies in the range; of two equally near the even one. -/
def Range.nearest? (r : Range) (scale : Int) : Option Nat :=
  let up := Nat.pow 10 scale.toNat
  let down := Nat.pow 10 (-scale).toNat
  let below := r.middle * down / (r.unit * up)
  let remainder := r.middle * down % (r.unit * up)
  let inRange (k : Nat) := r.contains (k * up) down
  match inRange below, inRange (below + 1) with
  | true, true =>
    if 2 * remainder < r.unit * up then some below
    else if r.unit * up < 2 * remainder then some (below + 1)
    else some (below + below % 2)
  | true, false => some below
  | false, true => some (below + 1)
  | false, false => none

/-- The fewest digits whose value rounds to the positive number, without zeros at the end, and the
exponent of the first of them. -/
def digits (x : Float) : List Char × Int :=
  let r := range x
  let leading := leadingExponent r.middle r.unit
  let found := (List.range 17).findSome? fun (n : Nat) =>
    (r.nearest? (leading - n)).map fun k => (k, leading - n)
  let (k, scale) := found.getD (0, 0)
  let all := Text.Numeral.write k
  ((all.reverse.dropWhile (· == '0')).reverse, scale + all.length - 1)

/-! ## As text -/

/-- An exponent with its sign, which is written also when it is positive. -/
def exponentText (exponent : Int) : List Char :=
  (if exponent < 0 then '-' else '+') :: Text.Numeral.write exponent.natAbs

/-- Digits with a decimal point; the exponent of the first digit is not negative. -/
def wholeText (ds : List Char) (exponent : Nat) : List Char :=
  if ds.length ≤ exponent + 1 then
    ds ++ List.replicate (exponent + 1 - ds.length) '0' ++ ['.', '0']
  else ds.take (exponent + 1) ++ '.' :: ds.drop (exponent + 1)

/-- Digits with an exponent behind them. -/
def scientificText (ds : List Char) (exponent : Int) : List Char :=
  match ds with
  | [] => []
  | [d] => d :: 'e' :: exponentText exponent
  | d :: rest => d :: '.' :: rest ++ 'e' :: exponentText exponent

/-- A finite number that is not negative, in the fewest digits.  Numbers from `1e-5` up to `1e16`
have a decimal point and a digit on both sides of it, the others an exponent. -/
def text (x : Float) : String :=
  String.ofList <|
    if x == 0 then ['0', '.', '0']
    else
      let (ds, exponent) := digits x
      if 0 ≤ exponent ∧ exponent ≤ 15 then wholeText ds exponent.toNat
      else if -5 ≤ exponent ∧ exponent < 0 then
        '0' :: '.' :: List.replicate (-exponent - 1).toNat '0' ++ ds
      else scientificText ds exponent

end Tileboard.Decimal.Double
