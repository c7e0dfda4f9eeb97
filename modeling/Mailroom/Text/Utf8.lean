/-!
# UTF-8 (RFC 3629)

Characters as bytes, and bytes as characters in two ways: strictly, where the first
ill-formed sequence is reported with its place, and leniently, where each ill-formed
sequence becomes one replacement character. Both run one machine byte by byte. An
ill-formed sequence is the longest run of bytes that could have begun a character.
-/

namespace Mailroom.Text.Utf8

def encodeChar (c : Char) : List UInt8 :=
  let n := c.toNat
  if n < 0x80 then [UInt8.ofNat n]
  else if n < 0x800 then [UInt8.ofNat (0xc0 + n / 0x40), UInt8.ofNat (0x80 + n % 0x40)]
  else if n < 0x10000 then
    [UInt8.ofNat (0xe0 + n / 0x1000), UInt8.ofNat (0x80 + n / 0x40 % 0x40),
      UInt8.ofNat (0x80 + n % 0x40)]
  else
    [UInt8.ofNat (0xf0 + n / 0x40000), UInt8.ofNat (0x80 + n / 0x1000 % 0x40),
      UInt8.ofNat (0x80 + n / 0x40 % 0x40), UInt8.ofNat (0x80 + n % 0x40)]

def encode (cs : List Char) : List UInt8 := cs.flatMap encodeChar

/-- A character under way: how many bytes it has taken and still needs, the range its
next byte must lie in, and its code point so far. -/
structure State where
  taken : Nat
  needed : Nat
  lowest : Nat
  highest : Nat
  value : Nat
  deriving DecidableEq, Repr

inductive Step
  | more (state : State)
  | char (c : Char)
  | reject
  deriving DecidableEq, Repr

def first (b : UInt8) : Step :=
  let n := b.toNat
  if n < 0x80 then .char (Char.ofNat n)
  else if n < 0xc2 then .reject
  else if n < 0xe0 then .more ⟨1, 1, 0x80, 0xbf, n - 0xc0⟩
  else if n = 0xe0 then .more ⟨1, 2, 0xa0, 0xbf, 0⟩
  else if n = 0xed then .more ⟨1, 2, 0x80, 0x9f, 0xd⟩
  else if n < 0xf0 then .more ⟨1, 2, 0x80, 0xbf, n - 0xe0⟩
  else if n = 0xf0 then .more ⟨1, 3, 0x90, 0xbf, 0⟩
  else if n < 0xf4 then .more ⟨1, 3, 0x80, 0xbf, n - 0xf0⟩
  else if n = 0xf4 then .more ⟨1, 3, 0x80, 0x8f, 4⟩
  else .reject

def next (s : State) (b : UInt8) : Step :=
  let n := b.toNat
  if s.lowest ≤ n ∧ n ≤ s.highest then
    let value := s.value * 0x40 + (n - 0x80)
    if s.needed ≤ 1 then .char (Char.ofNat value)
    else .more ⟨s.taken + 1, s.needed - 1, 0x80, 0xbf, value⟩
  else .reject

inductive Fault
  /-- `size` bytes at `index` begin no character together with what follows. -/
  | invalid (size index : Nat)
  /-- The sequence ends inside the character that begins at `index`. -/
  | incomplete (index : Nat)
  deriving DecidableEq, Repr

def Fault.message : Fault → String
  | .invalid size index => s!"invalid utf-8 sequence of {size} bytes from index {index}"
  | .incomplete index => s!"incomplete utf-8 byte sequence from index {index}"

/-- Strict reading. `index` is the place of the next byte, `pending` the character under
way. -/
def decodeFrom (index : Nat) (pending : Option State) : List UInt8 → Except Fault (List Char)
  | [] =>
    match pending with
    | none => .ok []
    | some s => .error (.incomplete (index - s.taken))
  | b :: rest =>
    match pending with
    | none =>
      match first b with
      | .char c => (decodeFrom (index + 1) none rest).map (c :: ·)
      | .more s => decodeFrom (index + 1) (some s) rest
      | .reject => .error (.invalid 1 index)
    | some s =>
      match next s b with
      | .char c => (decodeFrom (index + 1) none rest).map (c :: ·)
      | .more s => decodeFrom (index + 1) (some s) rest
      | .reject => .error (.invalid s.taken (index - s.taken))

def decode (bytes : List UInt8) : Except Fault (List Char) := decodeFrom 0 none bytes

def replacement : Char := '\ufffd'

def lenientFirst (b : UInt8) : List Char × Option State :=
  match first b with
  | .char c => ([c], none)
  | .more s => ([], some s)
  | .reject => ([replacement], none)

/-- A byte read leniently. One that cannot go on begins anew after a replacement. -/
def lenientStep (pending : Option State) (b : UInt8) : List Char × Option State :=
  match pending with
  | none => lenientFirst b
  | some s =>
    match next s b with
    | .char c => ([c], none)
    | .more s => ([], some s)
    | .reject => ((replacement :: (lenientFirst b).1), (lenientFirst b).2)

def lenientFrom (pending : Option State) : List UInt8 → List Char
  | [] => if pending.isSome then [replacement] else []
  | b :: rest => (lenientStep pending b).1 ++ lenientFrom (lenientStep pending b).2 rest

def decodeLenient (bytes : List UInt8) : List Char := lenientFrom none bytes

example : decode (encode ['a', 'é', '€', '😀']) = .ok ['a', 'é', '€', '😀'] := by cbv
example : decode [0x61, 0xe2, 0x82] = .error (.incomplete 1) := rfl
example : decode [0xe2, 0x28] = .error (.invalid 1 0) := rfl
example : decodeLenient [0xf0, 0x9f, 0x61] = "\ufffda".toList := by decide

end Mailroom.Text.Utf8

namespace Mailroom.Text

def bytes (s : String) : List UInt8 := Utf8.encode s.toList

def ofBytesLenient (bs : List UInt8) : String := String.ofList (Utf8.decodeLenient bs)

def ofBytes (bs : List UInt8) : Except Utf8.Fault String := (Utf8.decode bs).map String.ofList

end Mailroom.Text
