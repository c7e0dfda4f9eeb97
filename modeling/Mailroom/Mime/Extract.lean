import Mailroom.Codec.Sha256
import Mailroom.Mime.Message

/-!
# Bodies and attachments of a message

Never fails. A message that cannot be split, or whose type is missing or cannot be read,
is one text. Among the leaves of a multipart the last one of each kind is the body. A
message of one part that is neither plain text nor HTML has no body.
-/

namespace Mailroom.Mime

structure Enclosure where
  filename : String
  /-- Type and subtype, empty if the part has none that can be read. -/
  contentType : String
  contentId : Option String
  inline : Bool
  bytes : List UInt8
  deriving DecidableEq, Repr

def Enclosure.checksum (e : Enclosure) : String := Codec.Sha256.hex e.bytes

structure Extracted where
  text : Option String
  html : Option String
  /-- In document order. -/
  enclosures : List Enclosure
  deriving DecidableEq, Repr

namespace Extracted

def empty : Extracted := ⟨none, none, []⟩

/-- The file name of an attachment: of its disposition, else of its type, else a
stand-in. -/
def filename (disposition : Option Disposition) (type : Option ContentType) : String :=
  match disposition.bind Disposition.filename? with
  | some name => name
  | none =>
    match (type.bind ContentType.name?).filter (!·.isEmpty) with
    | some name => EncodedWord.decodeOrKeep name
    | none => "attachment"

/-- A part as an attachment. Bytes that cannot be decoded are kept as they stand. -/
def enclosure (p : Part) (inline : Bool) : Enclosure where
  filename := filename p.disposition? p.contentType.toOption
  contentType := (p.contentType.toOption.map ContentType.essence).getD ""
  contentId := p.contentId?
  inline
  bytes := p.decodedBody.toOption.getD p.body

/-- Adds a leaf: a body unless it is marked as attachment, else an attachment if it has a
disposition that asks to be shown or saved. -/
def addLeaf (x : Extracted) (p : Part) : Extracted :=
  let isType (main sub : String) := (p.contentType.toOption.map (·.is main sub)).getD false
  let isAttachment := (p.disposition?.map (·.isAttachment)).getD false
  let isInline := (p.disposition?.map (·.isInline)).getD false
  if isType "text" "plain" && !isAttachment then { x with text := some p.textOrRaw }
  else if isType "text" "html" && !isAttachment then { x with html := some p.textOrRaw }
  else if isAttachment || isInline then
    { x with enclosures := x.enclosures ++ [enclosure p isInline] }
  else x

/-- The bodies and attachments of a raw message. -/
def ofRaw (raw : List UInt8) : Extracted :=
  match Message.parse raw with
  | .error _ => { empty with text := some (Text.ofBytesLenient (Part.parse raw).body) }
  | .ok message =>
    match (message.headers.get? "content-type").bind fun v => (ContentType.parse v).toOption with
    | none => { empty with text := some message.textOrRaw }
    | some type =>
      if type.isMultipart then message.parts.foldl addLeaf empty
      else if type.is "text" "plain" then { empty with text := some message.textOrRaw }
      else if type.is "text" "html" then { empty with html := some message.textOrRaw }
      else empty

end Extracted

end Mailroom.Mime
