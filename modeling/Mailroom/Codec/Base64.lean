import Mailroom.Text.Blank

/-!
# Base64 (RFC 4648), standard alphabet, canonical padding

`decode` drops ASCII blanks and accepts what is left only if it is what `encode` writes
for some bytes. Offsets in faults count the bytes that are left. A foreign byte is
reported before a wrong length, a wrong length before wrong padding, and wrong padding
before bits that no byte would hold.
-/

namespace Mailroom.Codec.Base64

inductive Fault
  | symbol (byte : UInt8) (offset : Nat)
  | length (size : Nat)
  | padding
  | lastSymbol (byte : UInt8) (offset : Nat)
  deriving DecidableEq, Repr

def Fault.message : Fault → String
  | .symbol byte offset => s!"Invalid symbol {byte.toNat}, offset {offset}."
  | .length size => s!"Invalid input length: {size}"
  | .padding => "Invalid padding"
  | .lastSymbol byte offset => s!"Invalid last symbol {byte.toNat}, offset {offset}."

def pad : UInt8 := 0x3d

def symbol (n : Nat) : UInt8 :=
  UInt8.ofNat (if n < 26 then 0x41 + n else if n < 52 then 0x61 + (n - 26)
    else if n < 62 then 0x30 + (n - 52) else if n = 62 then 0x2b else 0x2f)

def value? (b : UInt8) : Option Nat :=
  let n := b.toNat
  if 0x41 ≤ n ∧ n ≤ 0x5a then some (n - 0x41)
  else if 0x61 ≤ n ∧ n ≤ 0x7a then some (n - 0x61 + 26)
  else if 0x30 ≤ n ∧ n ≤ 0x39 then some (n - 0x30 + 52)
  else if n = 0x2b then some 62
  else if n = 0x2f then some 63
  else none

def encode : List UInt8 → List UInt8
  | [] => []
  | [a] =>
    let n := a.toNat
    [symbol (n / 4), symbol (n % 4 * 16), pad, pad]
  | [a, b] =>
    let n := a.toNat * 256 + b.toNat
    [symbol (n / 1024), symbol (n / 16 % 64), symbol (n % 16 * 4), pad]
  | a :: b :: c :: rest =>
    let n := a.toNat * 65536 + b.toNat * 256 + c.toNat
    symbol (n / 262144) :: symbol (n / 4096 % 64) :: symbol (n / 64 % 64) :: symbol (n % 64)
      :: encode rest

def group (w x y z : Nat) : List UInt8 :=
  [UInt8.ofNat (w * 4 + x / 16), UInt8.ofNat (x % 16 * 16 + y / 4), UInt8.ofNat (y % 4 * 64 + z)]

def valueAt (offset : Nat) (b : UInt8) : Except Fault Nat :=
  match value? b with
  | some n => .ok n
  | none => .error (.symbol b offset)

/-- The symbols of the last group before its padding, and the number of paddings.
`symbols` and `pads` are those met so far, the group begins at `start`. -/
def lastGroup (start : Nat) (symbols : List (UInt8 × Nat)) (pads : Nat) :
    List UInt8 → Except Fault (List (UInt8 × Nat) × Nat)
  | [] => .ok (symbols, pads)
  | b :: rest =>
    if b = pad then
      if symbols.length + pads < 2 then .error (.symbol pad (start + symbols.length + pads))
      else lastGroup start symbols (pads + 1) rest
    else if pads > 0 then .error (.symbol pad (start + symbols.length))
    else do
      let n ← valueAt (start + symbols.length) b
      lastGroup start (symbols ++ [(b, n)]) pads rest

/-- The bytes of the last group. Bits beyond the last whole byte must be zero. -/
def closeGroup (start : Nat) (symbols : List (UInt8 × Nat)) (pads : Nat) :
    Except Fault (List UInt8) :=
  if symbols.length < 2 then .error (.length (start + symbols.length))
  else if (symbols.length + pads) % 4 ≠ 0 then .error .padding
  else match symbols with
    | [(_, w), (b, x)] =>
      if x % 16 = 0 then .ok [UInt8.ofNat (w * 4 + x / 16)]
      else .error (.lastSymbol b (start + 1))
    | [(_, w), (_, x), (b, y)] =>
      if y % 4 = 0 then .ok [UInt8.ofNat (w * 4 + x / 16), UInt8.ofNat (x % 16 * 16 + y / 4)]
      else .error (.lastSymbol b (start + 2))
    | [(_, w), (_, x), (_, y), (_, z)] => .ok (group w x y z)
    | _ => .error .padding

/-- Reads group after group. Only the last one, which may be short, holds padding. -/
def decodeFrom (start : Nat) : List UInt8 → Except Fault (List UInt8)
  | [] => .ok []
  | a :: b :: c :: d :: e :: rest => do
    let w ← valueAt start a
    let x ← valueAt (start + 1) b
    let y ← valueAt (start + 2) c
    let z ← valueAt (start + 3) d
    let bytes ← decodeFrom (start + 4) (e :: rest)
    return group w x y z ++ bytes
  | last => do
    let (symbols, pads) ← lastGroup start [] 0 last
    closeGroup start symbols pads

/-- A single byte after whole groups, if it is no symbol at all. It is reported before
anything else. -/
def strayLast? (bytes : List UInt8) : Option Fault :=
  match bytes.getLast? with
  | some b =>
    if bytes.length % 4 = 1 ∧ b ≠ pad ∧ value? b = none then some (.symbol b (bytes.length - 1))
    else none
  | none => none

def decode (bytes : List UInt8) : Except Fault (List UInt8) :=
  let dense := bytes.filter (!Text.isBlankByte ·)
  match strayLast? dense with
  | some fault => .error fault
  | none => decodeFrom 0 dense

end Mailroom.Codec.Base64
