import Mailroom.Proofs.Json.Record
import Mailroom.Proofs.Store.Statement

/-!
# New rows of mail

An insertion that is not refused adds one row with a new id, unless its message id is stored. The
new row can be read, and what is read of it is what was inserted, as far as it survives its text.
-/

namespace Mailroom.Mail

open Mailroom.Time (Instant)

/-- The record of an email that has just arrived. Its folder is what the folder's name says, and
its time of receipt is the epoch if it cannot be read back. -/
def NewEmail.record (e : NewEmail) (id : EmailId) : Email where
  id := id
  org := e.org
  domain := e.domain
  identity := e.identity
  messageId := e.messageId
  serviceId := e.serviceId
  thread := e.thread
  sender := e.sender
  senderName := e.senderName
  recipients := e.recipients
  cc := e.cc
  subject := e.subject
  snippet := e.snippet
  folder := .ofName e.folder.name
  isRead := false
  readAt := none
  isStarred := false
  isArchived := false
  isTrashed := false
  trashedAt := none
  isSpam := e.verdicts.isSpam
  verdicts := e.verdicts
  storage := e.storage
  textBody := none
  htmlBody := none
  size := 0
  hasAttachments := false
  received := (Instant.parse e.received.render).getD .epoch

namespace NewEmail

@[simp] theorem record_org (e : NewEmail) (id : EmailId) : (e.record id).org = e.org := rfl

@[simp] theorem record_domain (e : NewEmail) (id : EmailId) : (e.record id).domain = e.domain := rfl

theorem record_received (e : NewEmail) (id : EmailId) :
    (e.record id).received = (Instant.parse e.received.render).getD .epoch := by
  rw [record]

end NewEmail

end Mailroom.Mail

namespace Mailroom.Store

open Mailroom.Json (Document Written)
open Mailroom.Mail

theorem readTexts_renderTexts (texts : List String) : readTexts (renderTexts texts) = .ok texts := by
  have h : Written 1 (Document.asList Document.asString) texts (Json.strings texts) :=
    .list fun s _ => .string s
  rw [readTexts, renderTexts, h.writable.read_render, h.read]
  rfl

theorem EmailRow.read_ofNew (id : EmailId) (e : NewEmail) :
    (ofNew e).read id = .ok (e.record id) := by
  have hstorage : Location.ofColumns (e.storage.map Location.container)
      (e.storage.map Location.key) = e.storage := by
    cases e.storage <;> rfl
  simp only [read, ofNew, readTexts_renderTexts, hstorage]
  rfl

namespace Database

def messageIds (db : Database) : List String := db.tables.emails.rows.map (·.messageId)

structure TakesMail (db : Database) : Prop where
  isOpen : db.closed = false
  passes : db.refuses db.writes .insertEmail = false

def counted (db : Database) : Database := { db with writes := db.writes + 1 }

def withMail (db : Database) (email : NewEmail) : Database :=
  { db.counted with
    tables := { db.tables with emails := (db.tables.emails.insert (.ofNew email)).2 } }

theorem insertEmail_refused {db : Database} (h : db.closed = false)
    (hr : db.refuses db.writes .insertEmail = true) (email : NewEmail) :
    db.insertEmail email = (.error (.database .refused), db.counted) := by
  simp [insertEmail, write, h, hr, counted]

theorem insertEmail_duplicate {db : Database} (h : db.TakesMail) {email : NewEmail}
    (hm : email.messageId ∈ db.messageIds) :
    db.insertEmail email = (.ok .duplicate, db.counted) := by
  have hany : db.tables.emails.rows.any (·.messageId == email.messageId) = true := by
    obtain ⟨row, hrow, heq⟩ := List.mem_map.mp hm
    exact List.any_eq_true.mpr ⟨row, hrow, beq_iff_eq.mpr heq⟩
  simp [insertEmail, write, change, h.isOpen, h.passes, hany, counted]

theorem insertEmail_created {db : Database} (h : db.TakesMail) {email : NewEmail}
    (hm : email.messageId ∉ db.messageIds) : db.insertEmail email =
      (.ok (.created (db.tables.emails.insert (.ofNew email)).1), db.withMail email) := by
  have hany : db.tables.emails.rows.any (·.messageId == email.messageId) = false := by
    rw [List.any_eq_false]
    intro row hrow heq
    exact hm (List.mem_map.mpr ⟨row, hrow, beq_iff_eq.mp heq⟩)
  simp [insertEmail, write, change, h.isOpen, h.passes, hany, counted, withMail]

theorem getEmail_withMail {db : Database} (h : db.closed = false) (email : NewEmail) :
    (db.withMail email).getEmail (db.tables.emails.insert (.ofNew email)).1 =
      .ok (email.record (db.tables.emails.insert (.ofNew email)).1) :=
  getEmail_of_get? h (Table.get?_insert_self _ _) (EmailRow.read_ofNew _ email)

end Database

end Mailroom.Store
