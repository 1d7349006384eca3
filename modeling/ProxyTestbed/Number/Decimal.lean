import ProxyTestbed.Number.Binary

/-!
# Decimal text of numbers

* `shortest` is the decimal with the fewest digits that reads back as the same double; of several the
  one nearest to it, and of two equally near ones the one with an even last digit.
* `Float.written` writes that decimal: positionally for exponents from -4 to 15, with an exponent of
  at least two digits otherwise, and always with a mark that tells it from an integer.
* `Float.fixed1` writes the exact value rounded to one place, a half to the even digit.
-/

namespace ProxyTestbed.Number

/-- A number `digits * 10 ^ exponent`. -/
structure Decimal where
  digits : Nat
  exponent : Int
  deriving DecidableEq, Repr

/-- `a * 10 ^ k` and `b * 2 ^ q` with their negative powers multiplied away, to be compared. -/
private def commonScale (a : Nat) (k : Int) (b : Nat) (q : Int) : Nat × Nat :=
  (a * tenTo k.toNat * twoTo (-q).toNat, b * twoTo q.toNat * tenTo (-k).toNat)

/-- The rounding interval of a double, in quarters of the unit of its mantissa. -/
private structure Interval where
  low : Nat
  value : Nat
  high : Nat
  /-- The exponent of two of the unit. -/
  unit : Int
  /-- The ends round to the double too. -/
  closed : Bool

private def intervalOf (mantissa exponent : Nat) : Interval where
  -- below a power of two the doubles are twice as dense
  low := if mantissa = twoTo 52 && 0 < exponent then 4 * mantissa - 1 else 4 * mantissa - 2
  value := 4 * mantissa
  high := 4 * mantissa + 2
  unit := exponent - 1076
  closed := mantissa % 2 = 0

/-- `a * 10 ^ k` lies in the interval. -/
private def Interval.contains (i : Interval) (a : Nat) (k : Int) : Bool :=
  let (x, low) := commonScale a k i.low i.unit
  let (_, high) := commonScale a k i.high i.unit
  if i.closed then low ≤ x && x ≤ high else low < x && x < high

/-- The largest `a` with `a * 10 ^ k` not above the value. -/
private def Interval.below (i : Interval) (k : Int) : Nat :=
  let (step, value) := commonScale 1 k i.value i.unit
  value / step

/-- The point of the grid `10 ^ k` in the interval that is nearest to the value. -/
private def Interval.pick? (i : Interval) (k : Int) : Option Nat :=
  let a := i.below k
  match i.contains a k, i.contains (a + 1) k with
  | true, true =>
    let (step, value) := commonScale 1 k i.value i.unit
    some (roundDiv value step)
  | true, false => some a
  | false, true => some (a + 1)
  | false, false => none

/-- Tries the grids from `10 ^ k` downwards. -/
private def Interval.search (i : Interval) : Nat → Int → Decimal
  | 0, k => ⟨i.below k, k⟩
  | fuel + 1, k =>
    match i.pick? k with
    | some a => ⟨a, k⟩
    | none => i.search fuel (k - 1)

/-- The shortest decimal that reads back as `mantissa * 2 ^ (exponent - 1074)`. -/
def shortest (mantissa exponent : Nat) : Decimal :=
  let i := intervalOf mantissa exponent
  -- a power of ten above every double of this size; 20 grids below it there is a point for sure
  let top := ((i.value.log2 + i.unit) * 1234 / 4096) + 2
  i.search 24 top

/-- The decimal without zeros at the end of its digits. -/
def Decimal.reduced (d : Decimal) : Decimal :=
  go d.digits d.exponent d.digits.log2
where
  /-- At most `fuel` zeros are dropped. -/
  go (digits : Nat) (exponent : Int) : Nat → Decimal
    | 0 => ⟨digits, exponent⟩
    | fuel + 1 =>
      if digits % 10 = 0 && digits ≠ 0 then go (digits / 10) (exponent + 1) fuel
      else ⟨digits, exponent⟩

/-- The text of a positive decimal. -/
def Decimal.written (d : Decimal) : String :=
  let r := d.reduced
  let cs := (Nat.toDigits 10 r.digits)
  let count : Int := cs.length
  -- the exponent of the first digit
  let lead := r.exponent + count - 1
  if -4 ≤ lead && lead < 16 then
    if 0 ≤ r.exponent then String.ofList (cs ++ List.replicate r.exponent.toNat '0' ++ ['.', '0'])
    else if 0 ≤ lead then
      let whole := (lead + 1).toNat
      String.ofList (cs.take whole ++ '.' :: cs.drop whole)
    else String.ofList ('0' :: '.' :: List.replicate (-lead - 1).toNat '0' ++ cs)
  else
    let fraction := match cs with
      | c :: (f :: fs) => c :: '.' :: f :: fs
      | cs => cs
    let size := lead.natAbs
    let sign := if lead < 0 then "-" else "+"
    let pad := if size < 10 then "0" else ""
    s!"{String.ofList fraction}e{sign}{pad}{size}"

/-- The text of a double: the fewest digits that read back as it. -/
def written (x : Float) : String :=
  match decompose x with
  | .nan => "nan"
  | .infinite negative => if negative then "-inf" else "inf"
  | .finite negative mantissa exponent =>
    let body := if mantissa = 0 then "0.0" else (shortest mantissa exponent).written
    if negative then "-" ++ body else body

/-- The text of a double with one decimal place. -/
def fixed1 (x : Float) : String :=
  match decompose x with
  | .nan => "nan"
  | .infinite negative => if negative then "-inf" else "inf"
  | .finite negative mantissa exponent =>
    let tenths := roundDiv (mantissa * 10 * twoTo exponent) (twoTo 1074)
    let sign := if negative then "-" else ""
    s!"{sign}{tenths / 10}.{tenths % 10}"

end ProxyTestbed.Number
