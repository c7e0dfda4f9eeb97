import Mailroom.Mime.Error
import Mailroom.Text.Case

/-!
# Character sets of encoded header text

UTF-8, its subset US-ASCII, and ISO-8859-1, whose bytes are the first 256 characters. A
language after `*` is no part of the name.
-/

namespace Mailroom.Mime.Charset

/-- The name without a language. -/
def name (declared : List Char) : List Char := declared.takeWhile (· != '*')

def decode (declared : List Char) (bytes : List UInt8) : Except Error (List Char) :=
  let lowered := (name declared).map Char.toLower
  if lowered = "utf-8".toList ∨ lowered = "us-ascii".toList then
    (Text.Utf8.decode bytes).mapError .utf8
  else if lowered = "iso-8859-1".toList ∨ lowered = "latin1".toList then
    .ok (bytes.map fun b => Char.ofNat b.toNat)
  else .error (.coding (.unknownCharset (String.ofList (name declared))))

end Mailroom.Mime.Charset
