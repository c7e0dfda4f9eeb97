import Mailroom.Codec.Hex
import Mailroom.Text.Utf8

/-!
# Quoted-printable (RFC 2045)

Works on bytes, so that text which was never encoded passes through. An escape is read
as a number of two places; a plus sign may stand in the first of them.
-/

namespace Mailroom.Codec.QuotedPrintable

inductive Fault
  | incomplete
  | notText
  | notHex
  deriving DecidableEq, Repr

def Fault.message : Fault → String
  | .incomplete => "Incomplete escape sequence"
  | .notText => "Non-ASCII escape sequence"
  | .notHex => "Invalid hex: invalid digit found in string"

def digit? (b : UInt8) : Option Nat := Hex.value? (Char.ofNat b.toNat)

def escaped (a b : UInt8) : Except Fault UInt8 :=
  match (Text.Utf8.decode [a, b]).toOption with
  | none => .error .notText
  | some _ =>
    match digit? b with
    | none => .error .notHex
    | some low =>
      if a = 0x2b then .ok (UInt8.ofNat low)
      else match digit? a with
        | none => .error .notHex
        | some high => .ok (UInt8.ofNat (16 * high + low))

/-- The bytes of an encoded body. A line break after an equals sign is dropped. -/
def decode : List UInt8 → Except Fault (List UInt8)
  | [] => .ok []
  | [x] => if x = 0x3d then .error .incomplete else .ok [x]
  | [x, a] =>
    if x = 0x3d then if a = 0x0a then .ok [] else .error .incomplete
    else (decode [a]).map (x :: ·)
  | x :: a :: b :: rest =>
    if x = 0x3d then
      if a = 0x0d ∧ b = 0x0a then decode rest
      else if a = 0x0a then decode (b :: rest)
      else match escaped a b with
        | .error fault => .error fault
        | .ok byte => (decode rest).map (byte :: ·)
    else (decode (a :: b :: rest)).map (x :: ·)

end Mailroom.Codec.QuotedPrintable
