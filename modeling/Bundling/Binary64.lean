/-!
# Rounding to double precision

Finite doubles as exact binary fractions, with rounding of any positive rational to the
nearest double (ties to even) and the two products and quotients a number reader needs.
Nothing here runs a machine float: every value is a natural mantissa and an integer
exponent, so the arithmetic is exact until the one rounding step.

## Main definitions

- `Binary64` — a finite double `mantissa * 2 ^ exponent`
- `Binary64.round` — the double nearest to `num / den * 2 ^ e`, none past the largest double
- `Binary64.mul`, `Binary64.div` — correctly rounded product and quotient
- `Binary64.pow10` — the double nearest to a power of ten
- `Binary64.decimalFits` — a decimal `mantissa * 10 ^ exponent` rounds to a finite double

## Design notes

A double has 53 significant bits; its last place is `2 ^ (k - 52)` when its leading bit is
`2 ^ k`, and never below `2 ^ -1074` (the subnormal range). Rounding computes the last
place first and then the nearest multiple of it, so one division with remainder decides
the result. A result overflows when it needs a bit at `2 ^ 1024` or above.
-/

namespace Bundling

/-- **A finite double** `mantissa * 2 ^ exponent`. Results of `Binary64.round` have a
mantissa below `2 ^ 53`, or exactly `2 ^ 53` after rounding up. -/
structure Binary64 where
  mantissa : Nat
  exponent : Int
  deriving DecidableEq, Repr

namespace Binary64

/-- The power of two with an integer exponent, as a numerator and denominator. -/
def twoPow (e : Int) : Nat × Nat :=
  if e ≥ 0 then (Nat.pow 2 e.toNat, 1) else (1, Nat.pow 2 e.natAbs)

/-- Whether `num / den ≥ 2 ^ k`. -/
def atLeastPow (num den : Nat) (k : Int) : Bool :=
  let (p, q) := twoPow k
  num * q ≥ den * p

/-- **The leading bit** of a positive rational: the `k` with `2 ^ k ≤ num / den < 2 ^ (k + 1)`.
The difference of the binary logarithms is exact or one too large. -/
def leadingBit (num den : Nat) : Int :=
  let k : Int := (Nat.log2 num : Int) - Nat.log2 den
  if atLeastPow num den k then k else k - 1

/-- The number of binary digits of a natural number, zero for zero. -/
def bitLength (n : Nat) : Nat :=
  if n = 0 then 0 else Nat.log2 n + 1

/-- **Rounding** `num / den * 2 ^ e` to the nearest double, ties to the even mantissa; none
when the result would need a bit at `2 ^ 1024` or above. `den` is positive. -/
def round (num den : Nat) (e : Int) : Option Binary64 :=
  if num = 0 then some ⟨0, 0⟩
  else
    let last : Int := max (leadingBit num den + e - 52) (-1074)
    let (p, q) := twoPow (e - last)
    let n := num * p
    let d := den * q
    let m := n / d
    let r := n % d
    let m := if 2 * r > d || (2 * r == d && m % 2 == 1) then m + 1 else m
    if (bitLength m : Int) + last > 1024 then none else some ⟨m, last⟩

/-- The double nearest to a natural number. -/
def ofNat? (n : Nat) : Option Binary64 := round n 1 0

/-- **The correctly rounded product** of two doubles. -/
def mul (a b : Binary64) : Option Binary64 :=
  round (a.mantissa * b.mantissa) 1 (a.exponent + b.exponent)

/-- **The correctly rounded quotient** of two doubles; none for a zero divisor. -/
def div (a b : Binary64) : Option Binary64 :=
  if b.mantissa = 0 then none else round a.mantissa b.mantissa (a.exponent - b.exponent)

/-- The double nearest to `10 ^ k`; every `k ≤ 308` gives a finite one. -/
def pow10 (k : Nat) : Option Binary64 := round (Nat.pow 10 k) 1 0

/-- The number of decimal digits of a natural number, at least one. -/
def decimalLength (n : Nat) : Nat :=
  (toString n).length

/-- The least magnitude that rounds past the largest double: halfway between the largest
double `(2 ^ 53 - 1) * 2 ^ 971` and `2 ^ 1024`, where ties go to the even `2 ^ 1024`. -/
def doubleLimit : Nat := Nat.pow 2 1024 - Nat.pow 2 970

/-- **A decimal within the range of doubles**: `mantissa * 10 ^ exponent` rounds to a
finite double. Magnitudes below `10 ^ 308` always do and those from `10 ^ 309` on never
do, so only the decade in between is compared exactly. -/
def decimalFits (mantissa : Nat) (exponent : Int) : Bool :=
  if mantissa == 0 then true
  else
    let size : Int := decimalLength mantissa + exponent
    if size ≤ 308 then true
    else if size ≥ 310 then false
    else if exponent ≥ 0 then mantissa * Nat.pow 10 exponent.toNat < doubleLimit
    else mantissa < doubleLimit * Nat.pow 10 exponent.natAbs

end Binary64

end Bundling
