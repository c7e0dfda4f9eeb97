import Mailroom.Time.Calendar

/-!
# Instants and their RFC 3339 text

An instant is a second since 1970 in UTC and nanoseconds within it. A leap second is the
59th second of its minute with a thousand million nanoseconds more. Texts are read with
any offset and written in UTC with a fraction of 0, 3, 6 or 9 digits, whichever is the
shortest that is exact. Years beyond four digits are written with a sign; such texts
cannot be read.
-/

namespace Mailroom.Time

structure Instant where
  seconds : Int
  nanos : Nat
  deriving DecidableEq, Repr

namespace Instant

def epoch : Instant := ⟨0, 0⟩

/-! ## Reading -/

/-- A number of exactly `count` digits, `n` being the value of the digits before it. -/
def fixedFrom (n : Nat) : (count : Nat) → List Char → Option (Nat × List Char)
  | 0, cs => some (n, cs)
  | count + 1, c :: rest =>
    if c.isDigit then fixedFrom (10 * n + (c.toNat - 48)) count rest else none
  | _ + 1, [] => none

def fixed (count : Nat) (cs : List Char) : Option (Nat × List Char) := fixedFrom 0 count cs

def behind (allowed : List Char) : List Char → Option (List Char)
  | c :: rest => if allowed.contains c then some rest else none
  | [] => none

/-- Nanoseconds of a fraction: its first nine digits, filled with zeros. -/
def fraction (digits : List Char) : Nat :=
  (digits.take 9).foldl (fun n c => 10 * n + (c.toNat - 48)) 0 * Nat.pow 10 (9 - digits.length)

/-- An optional fraction. A point must be followed by a digit. -/
def readFraction : List Char → Option (Nat × List Char)
  | '.' :: rest =>
    let digits := rest.takeWhile Char.isDigit
    if digits.isEmpty then none else some (fraction digits, rest.dropWhile Char.isDigit)
  | cs => some (0, cs)

/-- Seconds east of UTC. Nothing may follow an offset, and it is less than a day. -/
def readOffset : List Char → Option Int
  | ['Z'] => some 0
  | ['z'] => some 0
  | sign :: rest => do
    let minus ← if sign = '+' then some false
      else if sign = '-' ∨ sign = '−' then some true else none
    let (hours, rest) ← fixed 2 rest
    let rest ← behind [':'] rest
    let (minutes, rest) ← fixed 2 rest
    if !rest.isEmpty ∨ 23 < hours ∨ 59 < minutes then none
    let size : Int := hours * 3600 + minutes * 60
    return if minus then -size else size
  | [] => none

def parseChars (cs : List Char) : Option Instant := do
  let (year, cs) ← fixed 4 cs
  let cs ← behind ['-'] cs
  let (month, cs) ← fixed 2 cs
  let cs ← behind ['-'] cs
  let (day, cs) ← fixed 2 cs
  let cs ← behind ['T', 't', ' '] cs
  let (hour, cs) ← fixed 2 cs
  let cs ← behind [':'] cs
  let (minute, cs) ← fixed 2 cs
  let cs ← behind [':'] cs
  let (second, cs) ← fixed 2 cs
  let (nanos, cs) ← readFraction cs
  let offset ← readOffset cs
  let date : Date := ⟨year, month, day⟩
  if !date.exists? ∨ 23 < hour ∨ 59 < minute ∨ 60 < second then none
  let leap := second = 60
  let wall : Int := date.toDays * 86400 + hour * 3600 + minute * 60
    + (if leap then 59 else second : Nat)
  return ⟨wall - offset, if leap then nanos + 1000000000 else nanos⟩

def parse (text : String) : Option Instant := parseChars text.toList

/-! ## Writing -/

def digits : (count : Nat) → Nat → List Char
  | 0, _ => []
  | count + 1, n => digits count (n / 10) ++ [Char.ofNat (48 + n % 10)]

/-- Four digits, or a sign and as many as it takes. -/
def yearChars (year : Int) : List Char :=
  if 0 ≤ year ∧ year ≤ 9999 then digits 4 year.toNat
  else
    let size := year.natAbs
    (if year < 0 then '-' else '+')
      :: (if size ≤ 9999 then digits 4 size else (toString size).toList)

/-- The shortest exact fraction of 0, 3, 6 or 9 digits. -/
def fractionChars (nanos : Nat) : List Char :=
  if nanos = 0 then []
  else if nanos % 1000000 = 0 then '.' :: digits 3 (nanos / 1000000)
  else if nanos % 1000 = 0 then '.' :: digits 6 (nanos / 1000)
  else '.' :: digits 9 nanos

def renderChars (t : Instant) : List Char :=
  let date := Date.ofDays (t.seconds / 86400)
  let time := (t.seconds % 86400).toNat
  let leap := 1000000000 ≤ t.nanos
  yearChars date.year ++ '-' :: digits 2 date.month ++ '-' :: digits 2 date.day
    ++ 'T' :: digits 2 (time / 3600) ++ ':' :: digits 2 (time / 60 % 60)
    ++ ':' :: digits 2 (if leap then time % 60 + 1 else time % 60)
    ++ fractionChars (if leap then t.nanos - 1000000000 else t.nanos)
    ++ ['+', '0', '0', ':', '0', '0']

def render (t : Instant) : String := String.ofList t.renderChars

end Instant

end Mailroom.Time
