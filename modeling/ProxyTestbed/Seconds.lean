import ProxyTestbed.Number.Decimal

/-!
# Time in seconds

Deadlines, intervals and clock values are numbers of seconds. The library computes with them through
the class `Seconds`, so the same waits run on machine floats and are exact on rational numbers.
-/

namespace ProxyTestbed

/-- A type of numbers of seconds, and how they are shown. -/
class Seconds (τ : Type) extends Add τ, Sub τ, Mul τ, LT τ, LE τ, OfScientific τ where
  decidableLT : DecidableLT τ
  decidableLE : DecidableLE τ
  /-- The full text of a number of seconds. -/
  written : τ → String
  /-- The text with one decimal place. -/
  fixed1 : τ → String
  /-- How many attempts of a wait with a timeout are followed, if no sleep between two of them is shorter
  than an interval. -/
  attempts (timeout interval : τ) : Nat

namespace Seconds

instance {τ : Type} [Seconds τ] : DecidableLT τ := decidableLT
instance {τ : Type} [Seconds τ] : DecidableLE τ := decidableLE

/-- The lesser of two; the first one unless the second is below it. -/
def least {τ : Type} [Seconds τ] (a b : τ) : τ :=
  if b < a then b else a

/-- The greater of two; the first one unless the second is above it. -/
def greatest {τ : Type} [Seconds τ] (a b : τ) : τ :=
  if a < b then b else a

/-- How many attempts are followed when no bound is known. -/
def manyAttempts : Nat := 10000000

/-- Seconds as machine numbers. -/
instance : Seconds Float where
  decidableLT := inferInstance
  decidableLE := inferInstance
  written := Number.written
  fixed1 := Number.fixed1
  attempts _ _ := manyAttempts

/-- Seconds as exact numbers. Here the bound is exact: the intervals that fit into a timeout, one attempt
before them, and one more that no wait comes to. -/
instance : Seconds Rat where
  decidableLT := inferInstance
  decidableLE := inferInstance
  written x := if x.den = 1 then s!"{x.num}" else s!"{x.num}/{x.den}"
  fixed1 x :=
    let tenths := Number.roundDiv (x.num.natAbs * 10) x.den
    let sign := if x.num < 0 then "-" else ""
    s!"{sign}{tenths / 10}.{tenths % 10}"
  attempts timeout interval :=
    if interval ≤ 0 then manyAttempts else (timeout / interval).ceil.toNat + 2

end Seconds

end ProxyTestbed
