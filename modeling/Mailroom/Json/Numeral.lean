/-!
# Numbers as JSON writes them

A numeral keeps what a reader of integers and a reader of doubles need: sign, decimal
significand and exponent. The significand holds 64 bits; further digits before the point
raise the exponent and further digits after it are dropped. A double that overflows is
no number at all.
-/

namespace Mailroom.Json

structure Numeral where
  negative : Bool
  significand : Nat
  exponent : Int
  /-- Written without point and exponent, and within 64 bits. -/
  whole : Bool
  deriving DecidableEq, Repr

namespace Numeral

/-- Significands stay below this. -/
def limit : Nat := Nat.pow 2 64

def ofInt (n : Int) : Numeral := ⟨n < 0, n.natAbs, 0, true⟩

def natural? (n : Numeral) : Option Nat :=
  if n.whole ∧ !n.negative then some n.significand else none

def integer? (n : Numeral) : Option Int :=
  if !n.whole then none
  else if n.negative then
    if n.significand ≤ Nat.pow 2 63 then some (-(n.significand : Int)) else none
  else if n.significand < Nat.pow 2 63 then some n.significand else none

/-- `n` rounded to 53 significant bits, a tie to the even neighbour. -/
def round53 (n : Nat) : Nat :=
  let shift := n.log2 + 1 - 53
  let unit := Nat.pow 2 shift
  let quotient := n / unit
  let rest := 2 * (n % unit)
  let up := rest > unit || (rest == unit && quotient % 2 == 1)
  (if up && shift > 0 then quotient + 1 else quotient) * unit

/-- Whether the double is infinite: the significand and the power of ten are rounded,
and so is their product. -/
def overflows (n : Numeral) : Bool :=
  if n.significand = 0 ∨ n.exponent < 0 then false
  else if 308 < n.exponent then true
  else
    let power := round53 (Nat.pow 10 n.exponent.toNat)
    decide (Nat.pow 2 1024 ≤ round53 (round53 n.significand * power))

def render (n : Numeral) : String :=
  let digits := (if n.negative then "-" else "") ++ toString n.significand
  if n.whole then digits else digits ++ "e" ++ toString n.exponent

end Numeral

end Mailroom.Json
