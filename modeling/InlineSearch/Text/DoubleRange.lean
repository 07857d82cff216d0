/-
InlineSearch.Text.DoubleRange — whether a decimal number lies in the range
of doubles.

A decimal `digits × 10 ^ exponent` rounds to infinity from halfway between
the greatest double and the next power of two on. Exponents may be
written with any number of digits, so numbers that are decided by their
number of digits alone are decided by it.

Where a decimal is computed as a product of doubles, its factors are
rounded first, and a decimal just below the limit may overflow.
-/
import InlineSearch.Text.Basic

namespace InlineSearch.Text

/-- The least natural number that rounds to infinity. -/
def doubleLimit : Nat := Nat.pow 2 1024 - Nat.pow 2 970

/-- Whether `n × 10 ^ exponent` rounds to an infinite double. -/
def overflowsDouble (n : Nat) (exponent : Int) : Bool :=
  let digits : Int := (ofNat n).length
  if n = 0 || digits + exponent < 309 then false
  else if 310 < digits + exponent then true
  else if 0 ≤ exponent then doubleLimit ≤ n * Nat.pow 10 exponent.toNat
  else doubleLimit * Nat.pow 10 (-exponent).toNat ≤ n

/-- The number with at most 53 significant bits that is nearest to `n`; of
two the one whose last bit is zero. -/
def nearestDouble (n : Nat) : Nat :=
  let unit := Nat.pow 2 (n.log2 - 52)
  let whole := n / unit
  let rest := n % unit
  if 2 * rest < unit || (2 * rest == unit && whole % 2 == 0) then whole * unit
  else (whole + 1) * unit

/-- The greatest power of ten that is a factor of its own. -/
def maxPower : Int := 308

/-- Whether the product of the doubles nearest to `n` and `10 ^ exponent`
rounds to an infinite double. Greater powers than the greatest are
infinite, and negative ones divide. -/
def productOverflows (n : Nat) (exponent : Int) : Bool :=
  if n = 0 || exponent < 0 then false
  else if maxPower < exponent then true
  else doubleLimit ≤ nearestDouble n * nearestDouble (Nat.pow 10 exponent.toNat)

end InlineSearch.Text
