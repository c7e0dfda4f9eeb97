import Mailroom.Mime.Error
import Mailroom.Text.Case

/-!
# Content transfer codings (RFC 2045)
-/

namespace Mailroom.Mime

inductive TransferCoding
  | sevenBit
  | eightBit
  | base64
  | quotedPrintable
  | binary
  deriving DecidableEq, Repr

namespace TransferCoding

def name : TransferCoding → String
  | .sevenBit => "7bit"
  | .eightBit => "8bit"
  | .base64 => "base64"
  | .quotedPrintable => "quoted-printable"
  | .binary => "binary"

/-- Reads a value in any case. An unknown coding counts as `7bit`. -/
def parse (value : String) : TransferCoding :=
  let named := Text.lower (String.ofList (Text.trim value.toList))
  ([eightBit, base64, quotedPrintable, binary].find? (·.name = named)).getD sevenBit

def decode : TransferCoding → List UInt8 → Except Error (List UInt8)
  | .base64, body => decodeBase64 body
  | .quotedPrintable, body => decodeQuotedPrintable body
  | _, body => .ok body

end TransferCoding

end Mailroom.Mime
