import Mailroom.Codec.Base64
import Mailroom.Codec.QuotedPrintable

/-!
# Why a piece of mail cannot be read

Causes, and their wording in one place. Reading is lenient: most callers fall back to
the raw text when they meet one of these.
-/

namespace Mailroom.Mime

inductive CodingFault
  | escape (fault : Codec.QuotedPrintable.Fault)
  | unknownWordCoding (name : String)
  | unknownCharset (name : String)
  deriving DecidableEq, Repr

def CodingFault.message : CodingFault → String
  | .escape fault => fault.message
  | .unknownWordCoding name => s!"Unknown encoded-word encoding: {name}"
  | .unknownCharset name => s!"Unsupported charset: {name}"

inductive Error
  | contentType (token : String)
  | disposition (value : String)
  | coding (fault : CodingFault)
  | base64 (fault : Codec.Base64.Fault)
  | utf8 (fault : Text.Utf8.Fault)
  | missingBoundary
  | noDelimiter (boundary : String)
  deriving DecidableEq, Repr

def Error.message : Error → String
  | .contentType token => s!"Invalid content type: {token}"
  | .disposition value => s!"Invalid content disposition: {value}"
  | .coding fault => s!"Invalid encoding: {fault.message}"
  | .base64 fault => s!"Base64 decode error: {fault.message}"
  | .utf8 fault => s!"UTF-8 decode error: {fault.message}"
  | .missingBoundary => "Missing boundary in multipart message"
  | .noDelimiter boundary => s!"Invalid multipart structure: no delimiter for boundary {boundary}"

def decodeBase64 (bytes : List UInt8) : Except Error (List UInt8) :=
  (Codec.Base64.decode bytes).mapError .base64

def decodeQuotedPrintable (bytes : List UInt8) : Except Error (List UInt8) :=
  (Codec.QuotedPrintable.decode bytes).mapError fun fault => .coding (.escape fault)

end Mailroom.Mime
