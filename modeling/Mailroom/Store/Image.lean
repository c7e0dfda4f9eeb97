import Mailroom.Store.Database

/-!
# Tables as JSON

A database file holds the tables as arrays of rows, and a row as an array of its columns.
-/

namespace Mailroom.Store

open Mailroom.Mail (Location NewAttachment Verdicts)

namespace Column

def int (n : Int) : Json := Json.ofInt n

def optionalInt : Option Int → Json
  | some n => int n
  | none => .null

def readText : Json → Option String
  | .string s => some s
  | _ => none

def readOptional : Json → Option (Option String)
  | .null => some none
  | .string s => some (some s)
  | _ => none

def readInt : Json → Option Int
  | .number n => n.integer?
  | _ => none

def readOptionalInt : Json → Option (Option Int)
  | .null => some none
  | j => (readInt j).map some

def readBool : Json → Option Bool
  | .bool b => some b
  | _ => none

end Column

open Column

def DomainRow.toJson (r : DomainRow) : Json :=
  .array [int r.org, .string r.name, Json.optional r.container]

def DomainRow.ofJson? : Json → Option DomainRow
  | .array [org, name, container] =>
    return ⟨← readInt org, ← readText name, ← readOptional container⟩
  | _ => none

def IdentityRow.toJson (r : IdentityRow) : Json :=
  .array [int r.domain, .string r.email, .bool r.catchAll]

def IdentityRow.ofJson? : Json → Option IdentityRow
  | .array [domain, email, catchAll] =>
    return ⟨← readInt domain, ← readText email, ← readBool catchAll⟩
  | _ => none

def EmailRow.toJson (r : EmailRow) : Json :=
  .array [int r.org, int r.domain, int r.identity, .string r.messageId, .string r.serviceId,
    Json.optional r.thread, .string r.sender, Json.optional r.senderName, .string r.recipients,
    .string r.cc, .string r.subject, .string r.snippet, Json.optional r.container,
    Json.optional r.key, .string r.folder, .bool r.isRead, Json.optional r.readAt,
    .bool r.isStarred, .bool r.isArchived, .bool r.isTrashed, Json.optional r.trashedAt,
    .bool r.isSpam, Json.optional r.verdicts.spam, Json.optional r.verdicts.virus,
    Json.optional r.verdicts.spf, Json.optional r.verdicts.dkim, Json.optional r.verdicts.dmarc,
    Json.optional r.textBody, Json.optional r.htmlBody, int r.size, .bool r.hasAttachments,
    .string r.received]

def EmailRow.ofJson? : Json → Option EmailRow
  | .array [org, domain, identity, messageId, serviceId, thread, sender, senderName, recipients, cc,
      subject, snippet, container, key, folder, isRead, readAt, isStarred, isArchived, isTrashed,
      trashedAt, isSpam, spam, virus, spf, dkim, dmarc, textBody, htmlBody, size, hasAttachments,
      received] => do
    let verdicts : Verdicts := ⟨← readOptional spam, ← readOptional virus, ← readOptional spf,
      ← readOptional dkim, ← readOptional dmarc⟩
    return {
      org := ← readInt org
      domain := ← readInt domain
      identity := ← readInt identity
      messageId := ← readText messageId
      serviceId := ← readText serviceId
      thread := ← readOptional thread
      sender := ← readText sender
      senderName := ← readOptional senderName
      recipients := ← readText recipients
      cc := ← readText cc
      subject := ← readText subject
      snippet := ← readText snippet
      container := ← readOptional container
      key := ← readOptional key
      folder := ← readText folder
      isRead := ← readBool isRead
      readAt := ← readOptional readAt
      isStarred := ← readBool isStarred
      isArchived := ← readBool isArchived
      isTrashed := ← readBool isTrashed
      trashedAt := ← readOptional trashedAt
      isSpam := ← readBool isSpam
      verdicts
      textBody := ← readOptional textBody
      htmlBody := ← readOptional htmlBody
      size := ← readInt size
      hasAttachments := ← readBool hasAttachments
      received := ← readText received }
  | _ => none

def attachmentToJson (a : NewAttachment) : Json :=
  .array [int a.email, .string a.filename, .string a.contentType, int a.size, .string a.checksum,
    Json.optional a.contentId, .bool a.inline, Json.optional (a.storage.map Location.container),
    Json.optional (a.storage.map Location.key)]

def attachmentOfJson? : Json → Option NewAttachment
  | .array [email, filename, contentType, size, checksum, contentId, inline, container, key] =>
    return {
      email := ← readInt email
      filename := ← readText filename
      contentType := ← readText contentType
      size := ← readInt size
      checksum := ← readText checksum
      contentId := ← readOptional contentId
      inline := ← readBool inline
      storage := Location.ofColumns (← readOptional container) (← readOptional key) }
  | _ => none

def RuleRow.toJson (r : RuleRow) : Json :=
  .array [int r.org, optionalInt r.identity, .string r.name, int r.priority, .string r.logic,
    .string r.conditions, .string r.actions, .bool r.active, int r.matchCount,
    Json.optional r.lastMatched]

def RuleRow.ofJson? : Json → Option RuleRow
  | .array [org, identity, name, priority, logic, conditions, actions, active, matchCount,
      lastMatched] =>
    return ⟨← readInt org, ← readOptionalInt identity, ← readText name, ← readInt priority,
      ← readText logic, ← readText conditions, ← readText actions, ← readBool active,
      ← readInt matchCount, ← readOptional lastMatched⟩
  | _ => none

namespace Table

variable {α : Type}

def toJson (encode : α → Json) (t : Table α) : Json := .array (t.rows.map encode)

def ofJson? (decode : Json → Option α) : Json → Option (Table α)
  | .array rows => (rows.mapM decode).map Table.mk
  | _ => none

end Table

namespace Tables

def toJson (t : Tables) : Json :=
  .array [t.domains.toJson DomainRow.toJson, t.identities.toJson IdentityRow.toJson,
    t.emails.toJson EmailRow.toJson, t.attachments.toJson attachmentToJson,
    t.rules.toJson RuleRow.toJson]

def ofJson? : Json → Option Tables
  | .array [domains, identities, emails, attachments, rules] =>
    return ⟨← Table.ofJson? DomainRow.ofJson? domains,
      ← Table.ofJson? IdentityRow.ofJson? identities, ← Table.ofJson? EmailRow.ofJson? emails,
      ← Table.ofJson? attachmentOfJson? attachments, ← Table.ofJson? RuleRow.ofJson? rules⟩
  | _ => none

/-- The tables in the bytes of a file. An empty file holds empty tables. -/
def ofBytes? (bytes : List UInt8) : Option Tables := do
  if bytes.isEmpty then return .empty
  let text ← (Text.ofBytes bytes).toOption
  let value ← (Json.parse text).toOption
  ofJson? value

end Tables

end Mailroom.Store
