/-!
# Shortest decimal digits

The fewest decimal digits that read back as a given binary floating point number, and among those
the ones nearest to it. All arithmetic is exact, on natural numbers: a number
`significand * 2 ^ exponent` is the centre of an interval of reals that round to it, and the
search looks at growing counts of digits for a grid point in that interval.

If a grid has any point in the interval, one of the two grid points next to the number lies in
it, so only these two are tried.
-/

namespace DialogueScript.Decimal

/-- A positive number in binary, with what rounding needs to know about it. -/
structure Binary where
  significand : Nat
  exponent : Int
  /-- Whether the next smaller number is only half as far away as the next larger one. -/
  lowerHalf : Bool

/-- The number that the bits of a finite, non-zero double precision value stand for. -/
def Binary.ofBits (bits : Nat) : Binary :=
  let fraction : Nat := bits % Nat.pow 2 52
  let field : Nat := bits / Nat.pow 2 52 % Nat.pow 2 11
  if field = 0 then ⟨fraction, -1074, false⟩
  else ⟨fraction + Nat.pow 2 52, (field : Int) - 1075, fraction == 0 && field != 1⟩

/-- The number `digits * 10 ^ exponent`. -/
structure Digits where
  digits : Nat
  exponent : Int
deriving DecidableEq

/-- The exponent of the power of ten at or below `num / den`, for positive arguments. -/
def leadingExponent (num den : Nat) : Int :=
  if den ≤ num then (Nat.toDigits 10 (num / den)).length - 1
  else -(Nat.toDigits 10 ((den - 1) / num)).length

namespace Binary

/-- Numerator and denominator of a quarter of the last binary place. -/
def quarter (b : Binary) : Nat × Nat :=
  (Nat.pow 2 (b.exponent - 2).toNat, Nat.pow 2 (2 - b.exponent).toNat)

/-- The grid point with `count` digits that lies in the interval and is nearest, if there is one;
of two that are equally near, the even one. Everything is measured in quarters of the last binary
place, so the number itself is `4 * significand`; the ends of the interval belong to it if the
significand is even. -/
def onGrid? (b : Binary) (leading : Int) (count : Nat) : Option Digits :=
  let exponent := leading - count + 1
  let unit := b.quarter.1 * Nat.pow 10 (-exponent).toNat
  let step := b.quarter.2 * Nat.pow 10 exponent.toNat
  let value := 4 * b.significand * unit
  let low := (4 * b.significand - if b.lowerHalf then 1 else 2) * unit
  let high := (4 * b.significand + 2) * unit
  let inside (c : Nat) : Bool :=
    if b.significand % 2 = 0 then low ≤ c * step && c * step ≤ high
    else low < c * step && c * step < high
  let below := value / step
  let above := below + 1
  let named (c : Nat) : Digits := if c = Nat.pow 10 count then ⟨1, leading + 1⟩ else ⟨c, exponent⟩
  match inside below, inside above with
  | true, true =>
    let down := value - below * step
    let up := above * step - value
    some (named (if down < up ∨ (down = up ∧ below % 2 = 0) then below else above))
  | true, false => some (named below)
  | false, true => some (named above)
  | false, false => none

/-- The shortest digits. Seventeen always suffice for a double precision value. -/
def shortest (b : Binary) : Digits :=
  let leading := leadingExponent (4 * b.significand * b.quarter.1) b.quarter.2
  let found := (List.range 17).findSome? fun i => b.onGrid? leading (i + 1)
  found.getD ⟨b.significand, b.exponent⟩

end Binary

end DialogueScript.Decimal
