/-!
# Whole numbers in decimal digits

A sign may lead and zeros may follow it; nothing but ASCII digits counts as a digit.
-/

namespace Mailroom.Text

/-- The value of a digit sequence, `n` being the value of the digits before it. -/
def digitsFrom (n : Nat) : List Char → Option Nat
  | [] => some n
  | c :: rest => if c.isDigit then digitsFrom (10 * n + (c.toNat - 48)) rest else none

def digits? : List Char → Option Nat
  | [] => none
  | c :: rest => digitsFrom 0 (c :: rest)

/-- A number below `limit`. A plus sign may lead. -/
def natural? (limit : Nat) (cs : List Char) : Option Nat :=
  let digits := match cs with
    | '+' :: rest => rest
    | _ => cs
  (digits? digits).filter (· < limit)

/-- A signed number of 64 bits. A plus or minus sign may lead. -/
def integer64? (cs : List Char) : Option Int :=
  match cs with
  | '-' :: rest => (digits? rest).bind fun n => if n ≤ Nat.pow 2 63 then some (-(n : Int)) else none
  | _ => (natural? (Nat.pow 2 63) cs).map Int.ofNat

end Mailroom.Text
