import Mailroom.Codec.Sha256
import Mailroom.Json.Reader
import Mailroom.Mail.Record
import Mailroom.Text.Blank
import Mailroom.Text.Case

/-!
# Notifications of received mail

The receiving service publishes one JSON notification for each message it accepts, bare
or inside an envelope that holds it as text. Every field may be missing. Optional fields
without a value are not written.
-/

namespace Mailroom

open Mailroom.Json (Document Result)

namespace Notification

structure HeaderField where
  name : String
  value : String
  deriving DecidableEq, Repr

structure CommonHeaders where
  returnPath : Option String
  senders : List String
  date : Option String
  recipients : List String
  cc : List String
  messageId : Option String
  subject : Option String
  deriving DecidableEq, Repr

structure MailInfo where
  timestamp : String
  source : String
  messageId : String
  destination : List String
  headersTruncated : Bool
  headers : List HeaderField
  commonHeaders : CommonHeaders
  deriving DecidableEq, Repr

structure ReceiptAction where
  kind : String
  bucketName : Option String
  objectKey : Option String
  objectKeyPrefix : Option String
  deriving DecidableEq, Repr

/-- What the service did with an accepted message. Verdicts are empty if there are none. -/
structure Receipt where
  timestamp : String
  processingTimeMillis : Nat
  recipients : List String
  spamVerdict : String
  virusVerdict : String
  spfVerdict : String
  dkimVerdict : String
  dmarcVerdict : String
  action : ReceiptAction
  deriving DecidableEq, Repr

end Notification

structure Notification where
  kind : String
  mail : Notification.MailInfo
  receipt : Option Notification.Receipt
  deriving DecidableEq, Repr

namespace Notification

/-! ## Reading -/

def headerFieldShape : Document.Shape HeaderField where
  names := ["name", "value"]
  required := 0
  set field name d := match name with
    | "name" => return { field with name := ← d.asString }
    | _ => return { field with value := ← d.asString }

def readHeaderField : Document → Result HeaderField :=
  Document.asRecord headerFieldShape ⟨"", ""⟩

def readText : Document → Result (Option String) := Document.asOption Document.asString

def readTexts : Document → Result (List String) := Document.asList Document.asString

def commonHeadersShape : Document.Shape CommonHeaders where
  names := ["returnPath", "from", "date", "to", "cc", "messageId", "subject"]
  required := 0
  set headers name d := match name with
    | "returnPath" => return { headers with returnPath := ← readText d }
    | "from" => return { headers with senders := ← readTexts d }
    | "date" => return { headers with date := ← readText d }
    | "to" => return { headers with recipients := ← readTexts d }
    | "cc" => return { headers with cc := ← readTexts d }
    | "messageId" => return { headers with messageId := ← readText d }
    | _ => return { headers with subject := ← readText d }

def CommonHeaders.empty : CommonHeaders := ⟨none, [], none, [], [], none, none⟩

def readCommonHeaders : Document → Result CommonHeaders :=
  Document.asRecord commonHeadersShape .empty

def mailInfoShape : Document.Shape MailInfo where
  names := ["timestamp", "source", "messageId", "destination", "headersTruncated", "headers",
    "commonHeaders"]
  required := 0
  set mail name d := match name with
    | "timestamp" => return { mail with timestamp := ← d.asString }
    | "source" => return { mail with source := ← d.asString }
    | "messageId" => return { mail with messageId := ← d.asString }
    | "destination" => return { mail with destination := ← readTexts d }
    | "headersTruncated" => return { mail with headersTruncated := ← d.asBool }
    | "headers" => return { mail with headers := ← Document.asList readHeaderField d }
    | _ => return { mail with commonHeaders := ← readCommonHeaders d }

def MailInfo.empty : MailInfo := ⟨"", "", "", [], false, [], .empty⟩

def readMailInfo : Document → Result MailInfo := Document.asRecord mailInfoShape .empty

/-- A verdict is an object with a status. -/
def verdictShape : Document.Shape String where
  names := ["status"]
  required := 0
  set _ _ d := d.asString

def readVerdict : Document → Result String := Document.asRecord verdictShape ""

def receiptActionShape : Document.Shape ReceiptAction where
  names := ["type", "bucketName", "objectKey", "objectKeyPrefix"]
  required := 0
  set action name d := match name with
    | "type" => return { action with kind := ← d.asString }
    | "bucketName" => return { action with bucketName := ← readText d }
    | "objectKey" => return { action with objectKey := ← readText d }
    | _ => return { action with objectKeyPrefix := ← readText d }

def ReceiptAction.empty : ReceiptAction := ⟨"", none, none, none⟩

def readReceiptAction : Document → Result ReceiptAction :=
  Document.asRecord receiptActionShape .empty

def receiptShape : Document.Shape Receipt where
  names := ["timestamp", "processingTimeMillis", "recipients", "spamVerdict", "virusVerdict",
    "spfVerdict", "dkimVerdict", "dmarcVerdict", "action"]
  required := 0
  set receipt name d := match name with
    | "timestamp" => return { receipt with timestamp := ← d.asString }
    | "processingTimeMillis" => return { receipt with processingTimeMillis := ← d.asNatural }
    | "recipients" => return { receipt with recipients := ← readTexts d }
    | "spamVerdict" => return { receipt with spamVerdict := ← readVerdict d }
    | "virusVerdict" => return { receipt with virusVerdict := ← readVerdict d }
    | "spfVerdict" => return { receipt with spfVerdict := ← readVerdict d }
    | "dkimVerdict" => return { receipt with dkimVerdict := ← readVerdict d }
    | "dmarcVerdict" => return { receipt with dmarcVerdict := ← readVerdict d }
    | _ => return { receipt with action := ← readReceiptAction d }

def Receipt.empty : Receipt := ⟨"", 0, [], "", "", "", "", "", .empty⟩

def readReceipt : Document → Result Receipt := Document.asRecord receiptShape .empty

def shape : Document.Shape Notification where
  names := ["notificationType", "mail", "receipt"]
  required := 0
  set n name d := match name with
    | "notificationType" => return { n with kind := ← d.asString }
    | "mail" => return { n with mail := ← readMailInfo d }
    | _ => return { n with receipt := ← Document.asOption readReceipt d }

def empty : Notification := ⟨"", .empty, none⟩

def read : Document → Result Notification := Document.asRecord shape empty

/-! ## Envelopes -/

structure Envelope where
  kind : String
  messageId : String
  topicArn : String
  message : String
  timestamp : String
  deriving DecidableEq, Repr

def envelopeShape : Document.Shape Envelope where
  names := ["Type", "MessageId", "TopicArn", "Message", "Timestamp"]
  required := 0
  set envelope name d := match name with
    | "Type" => return { envelope with kind := ← d.asString }
    | "MessageId" => return { envelope with messageId := ← d.asString }
    | "TopicArn" => return { envelope with topicArn := ← d.asString }
    | "Message" => return { envelope with message := ← d.asString }
    | _ => return { envelope with timestamp := ← d.asString }

def Envelope.empty : Envelope := ⟨"", "", "", "", ""⟩

def readEnvelope : Document → Result Envelope := Document.asRecord envelopeShape .empty

/-- The notification in an envelope. Envelopes of other kinds hold none. -/
def Envelope.notification? (e : Envelope) : Result (Option Notification) :=
  if e.kind = "Notification" then (Json.read Notification.read e.message).map some else .ok none

/-- Reads a payload: an envelope if it has a member `Type`, else a notification. -/
def parsePayload (payload : String) : Result (Option Notification) := do
  let value ← Json.parse payload
  if (value.get? "Type").isSome then
    let envelope ← Json.as readEnvelope value
    envelope.notification?
  else
    return some (← Json.as Notification.read value)

/-! ## Writing -/

def HeaderField.toJson (f : HeaderField) : Json :=
  .object [("name", .string f.name), ("value", .string f.value)]

def CommonHeaders.toJson (h : CommonHeaders) : Json :=
  .object (Json.member? "returnPath" h.returnPath
    ++ [("from", Json.strings h.senders)]
    ++ Json.member? "date" h.date
    ++ [("to", Json.strings h.recipients), ("cc", Json.strings h.cc)]
    ++ Json.member? "messageId" h.messageId
    ++ Json.member? "subject" h.subject)

def MailInfo.toJson (m : MailInfo) : Json :=
  .object [("timestamp", .string m.timestamp), ("source", .string m.source),
    ("messageId", .string m.messageId), ("destination", Json.strings m.destination),
    ("headersTruncated", .bool m.headersTruncated),
    ("headers", .array (m.headers.map HeaderField.toJson)),
    ("commonHeaders", m.commonHeaders.toJson)]

def verdictJson (status : String) : Json := .object [("status", .string status)]

def ReceiptAction.toJson (a : ReceiptAction) : Json :=
  .object (("type", .string a.kind) :: Json.member? "bucketName" a.bucketName
    ++ Json.member? "objectKey" a.objectKey ++ Json.member? "objectKeyPrefix" a.objectKeyPrefix)

def Receipt.toJson (r : Receipt) : Json :=
  .object [("timestamp", .string r.timestamp),
    ("processingTimeMillis", Json.ofNat r.processingTimeMillis),
    ("recipients", Json.strings r.recipients), ("spamVerdict", verdictJson r.spamVerdict),
    ("virusVerdict", verdictJson r.virusVerdict), ("spfVerdict", verdictJson r.spfVerdict),
    ("dkimVerdict", verdictJson r.dkimVerdict), ("dmarcVerdict", verdictJson r.dmarcVerdict),
    ("action", r.action.toJson)]

def toJson (n : Notification) : Json :=
  .object ([("notificationType", .string n.kind), ("mail", n.mail.toJson)]
    ++ (n.receipt.map fun r => ("receipt", r.toJson)).toList)

def Envelope.toJson (e : Envelope) : Json :=
  .object [("Type", .string e.kind), ("MessageId", .string e.messageId),
    ("TopicArn", .string e.topicArn), ("Message", .string e.message),
    ("Timestamp", .string e.timestamp)]

/-! ## What a notification says -/

/-- The thread that a message belongs to: eight bytes of the digest of the first word in
the first reply header that has one. -/
def MailInfo.threadId? (m : MailInfo) : Option String :=
  let replies := m.headers.filter fun f =>
    Text.sameAscii f.name "In-Reply-To" || Text.sameAscii f.name "References"
  (replies.findSome? fun f => Text.firstWord? f.value.toList).map fun reference =>
    Codec.Hex.encode ((Codec.Sha256.digest (Text.Utf8.encode reference)).take 8)

def status? (verdict : String) : Option String := if verdict.isEmpty then none else some verdict

def Receipt.verdicts (r : Receipt) : Mail.Verdicts where
  spam := status? r.spamVerdict
  virus := status? r.virusVerdict
  spf := status? r.spfVerdict
  dkim := status? r.dkimVerdict
  dmarc := status? r.dmarcVerdict

end Notification

end Mailroom
