/-!
# Sets of code points as ascending ranges

Character properties are tables of ranges. A table is written down as one text of
hexadecimal numbers, `41-5a 61-7a aa`, and read when it is wanted.
-/

namespace Mailroom.Unicode

structure Span where
  first : Nat
  last : Nat
  deriving DecidableEq, Repr

abbrev Ranges := List Span

namespace Ranges

/-- Stops at the first span beyond `n`, so low code points are found early. -/
def contains : Ranges → Nat → Bool
  | [], _ => false
  | s :: rest, n => s.first ≤ n && (n ≤ s.last || contains rest n)

def digit? (c : Char) : Option Nat :=
  if '0' ≤ c ∧ c ≤ '9' then some (c.toNat - '0'.toNat)
  else if 'a' ≤ c ∧ c ≤ 'f' then some (c.toNat - 'a'.toNat + 10)
  else none

def close (first n : Option Nat) : Ranges := (n.map fun n => ⟨first.getD n, n⟩).toList

/-- Reads the rest of a table. `first` is the start of a span under way and `n` the
number under way. -/
def scan (first n : Option Nat) : List Char → Ranges
  | [] => close first n
  | c :: rest =>
    match digit? c with
    | some d => scan first (some (16 * n.getD 0 + d)) rest
    | none => if c == '-' then scan n none rest else close first n ++ scan none none rest

def ofText (text : String) : Ranges := scan none none text.toList

example : ofText "41-5a aa" = [⟨0x41, 0x5a⟩, ⟨0xaa, 0xaa⟩] := by decide

end Ranges

end Mailroom.Unicode
