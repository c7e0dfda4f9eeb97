import Mailroom.Mail.Address
import Mailroom.Notification
import Mailroom.Pipeline.Work

/-!
# Taking in received mail

A notification of received mail becomes one stored email, filed under the first recipient
that has an identity, and tasks for decoding and evaluating it. A message id that is
already stored makes no second email and no tasks.
-/

namespace Mailroom.Pipeline

open Mailroom.Mail
open Mailroom.Time (Instant)

inductive Outcome
  | ignored
  | duplicate
  | created (id : EmailId)
  deriving DecidableEq, Repr

namespace Intake

/-- A text that is present and not empty. -/
def filled (text : Option String) : Option String := text.filter fun s => !s.isEmpty

/-- The identity of a recipient: of its own, or what takes all other mail of its domain. -/
def resolve (recipient : String) : Work (Option Identity) := do
  match ← Work.select (·.findByAddress recipient) with
  | some identity => return some identity
  | none =>
    match domainOf? recipient with
    | some domain => Work.select (·.findCatchAll domain)
    | none => return none

def resolveFirst : List String → Work (Option Identity)
  | [] => return none
  | recipient :: rest => do
    match ← resolve recipient with
    | some identity => return some identity
    | none => resolveFirst rest

/-- Where the raw message lies: as the receipt says, else in the domain's container under
the domain and the service's message id. -/
def source? (n : Notification) (receipt : Notification.Receipt) (domain : Domain) :
    Option Location := do
  let container ← (filled receipt.action.bucketName) <|> (filled domain.container)
  let key := (filled receipt.action.objectKey).getD
    s!"incoming/{domain.name}/{n.mail.messageId}"
  return ⟨container, key⟩

/-- The email that a notification announces. Its message id is that of the message, else
that of the service; without a readable time of receipt it was received `now`. -/
def email (n : Notification) (receipt : Notification.Receipt) (identity : Identity)
    (domain : Domain) (now : Instant) : NewEmail :=
  let headers := n.mail.commonHeaders
  let subject := headers.subject.getD ""
  let sender : Mailbox := (headers.senders.head?.map Mailbox.parse).getD ⟨"", none⟩
  let verdicts := receipt.verdicts
  { org := identity.org
    domain := identity.domain
    identity := identity.id
    messageId := (filled headers.messageId).getD n.mail.messageId
    serviceId := n.mail.messageId
    thread := n.mail.threadId?
    sender := sender.address
    senderName := sender.name
    recipients := headers.recipients
    cc := headers.cc
    subject
    snippet := snippet subject
    folder := if verdicts.isSpam then .spam else .inbox
    verdicts
    storage := source? n receipt domain
    received := (Instant.parse receipt.timestamp).getD now }

/-- Leaves tasks for an email. It does not matter whether the queue takes them. -/
def submitTasks (id : EmailId) (source : Option Location) : Work Unit := do
  if let some source := source then
    Work.orSkip (Work.submit (.decode id source))
  Work.orSkip (Work.submit (.evaluate id))

def ingest (n : Notification) (now : Instant) : Work Outcome := do
  if n.kind != "Received" then return .ignored
  match n.receipt with
  | none => throw (.invalidNotification "missing receipt")
  | some receipt =>
    match ← resolveFirst receipt.recipients with
    | none => throw (.identityNotFound receipt.recipients)
    | some identity =>
      let domain ← Work.select (·.getDomain identity.domain)
      let email := email n receipt identity domain now
      match ← Work.change (·.insertEmail email) with
      | .duplicate => return .duplicate
      | .created id =>
        submitTasks id email.storage
        return .created id

end Intake

end Mailroom.Pipeline
