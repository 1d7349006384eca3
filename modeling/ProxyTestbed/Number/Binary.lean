/-!
# Binary floating point as integers

A finite double is a natural mantissa times a power of two, with a sign. `decompose` takes a double
apart; `nearest` finds the double nearest to a quotient of natural numbers, a tie going to the even
mantissa. Everything between is exact arithmetic on `Nat`.
-/

namespace ProxyTestbed.Number

def twoTo (n : Nat) : Nat := Nat.pow 2 n

def tenTo (n : Nat) : Nat := Nat.pow 10 n

/-- What the bits of a double stand for. -/
inductive Parts
  | nan
  | infinite (negative : Bool)
  /-- The number `mantissa * 2 ^ (exponent - 1074)`, with its sign. -/
  | finite (negative : Bool) (mantissa exponent : Nat)
  deriving DecidableEq, Repr

/-- The parts of a double. The mantissa of a normal number has its leading bit at place 52. -/
def decompose (x : Float) : Parts :=
  let bits := x.toBits.toNat
  let negative := bits / twoTo 63 = 1
  let field := bits / twoTo 52 % twoTo 11
  let fraction := bits % twoTo 52
  if field = 2047 then if fraction = 0 then .infinite negative else .nan
  else if field = 0 then .finite negative fraction 0
  else .finite negative (fraction + twoTo 52) (field - 1)

/-- Why a double has no whole part. -/
inductive WholeProblem
  | undefined | infinite
  deriving DecidableEq, Repr

def WholeProblem.message : WholeProblem → String
  | undefined => "cannot convert float NaN to integer"
  | infinite => "cannot convert float infinity to integer"

/-- The whole part of a double: its fraction is cut off. -/
def wholePart (x : Float) : Except WholeProblem Int :=
  match decompose x with
  | .nan => .error .undefined
  | .infinite _ => .error .infinite
  | .finite negative mantissa exponent =>
    let size := mantissa * twoTo exponent / twoTo 1074
    .ok (if negative then -(size : Int) else size)

/-- The quotient of two natural numbers rounded to the nearest natural number, a half to the even
one. -/
def roundDiv (num den : Nat) : Nat :=
  let q := num / den
  let twice := 2 * (num % den)
  if twice < den then q else if den < twice then q + 1 else q + q % 2

/-- The bits of positive infinity. -/
def infinityBits : Nat := 2047 * twoTo 52

/-- The bits of the positive double nearest to `num / den`; beyond the largest one, infinity. -/
def nearestBits (num den : Nat) : Nat :=
  if num = 0 then 0
  else
    -- `num / den` lies between `2 ^ (size - 1)` and `2 ^ (size + 1)`
    let size : Int := num.log2 - den.log2
    let scaled (e : Int) : Nat × Nat :=
      if 0 ≤ e then (num, den * twoTo e.toNat) else (num * twoTo (-e).toNat, den)
    let guess := size - 52
    let fits := (scaled guess).1 / (scaled guess).2
    let unit := max (if fits < twoTo 52 then guess - 1 else guess) (-1074)
    let (n, d) := scaled unit
    let mantissa := roundDiv n d
    let field := (unit + 1074).toNat
    let bits := if mantissa < twoTo 52 then mantissa else field * twoTo 52 + mantissa
    min bits infinityBits

/-- The double nearest to a quotient, with a sign. -/
def nearest (negative : Bool) (num den : Nat) : Float :=
  Float.ofBits (nearestBits num den + if negative then twoTo 63 else 0).toUInt64

end ProxyTestbed.Number
