import Mailroom.Mime.ContentType
import Mailroom.Mime.Disposition
import Mailroom.Mime.Header
import Mailroom.Mime.Multipart
import Mailroom.Mime.TransferCoding

/-!
# Parts of a message

A header block and the bytes after it. What the headers say about the body is read on
demand, so a part with nonsense in its headers is still a part.
-/

namespace Mailroom.Mime

structure Part where
  headers : Headers
  body : List UInt8
  deriving DecidableEq, Repr

namespace Part

def parse (raw : List UInt8) : Part :=
  let (head, body) := splitHead raw
  ⟨Headers.parse (Text.ofBytesLenient head), body⟩

/-- The declared type. A part that declares none is plain text. -/
def contentType (p : Part) : Except Error ContentType :=
  match p.headers.get? "content-type" with
  | none => .ok ContentType.textPlain
  | some value => ContentType.parse value

/-- The disposition, if there is one that can be read. -/
def disposition? (p : Part) : Option Disposition :=
  (p.headers.get? "content-disposition").bind fun value => (Disposition.parse value).toOption

def contentId? (p : Part) : Option String :=
  ((p.headers.get? "content-id").map fun id =>
    String.ofList (Text.trimBoth (fun c => c == '<' || c == '>') id.toList)).filter (!·.isEmpty)

def transferCoding (p : Part) : TransferCoding :=
  ((p.headers.get? "content-transfer-encoding").map TransferCoding.parse).getD .sevenBit

def decodedBody (p : Part) : Except Error (List UInt8) := p.transferCoding.decode p.body

def text (p : Part) : Except Error String := p.decodedBody.map Text.ofBytesLenient

/-- The decoded body as text, or the body as it stands if it cannot be decoded. -/
def textOrRaw (p : Part) : String := p.text.toOption.getD (Text.ofBytesLenient p.body)

/-- The sections of a multipart body with a boundary that occurs in it. -/
def sections? (p : Part) : Option (List (List UInt8)) := do
  let type ← p.contentType.toOption
  if !type.isMultipart then none
  let boundary ← type.boundary?
  (Multipart.split p.body boundary).toOption

end Part

end Mailroom.Mime
