import Mailroom.Error
import Mailroom.Filter.Format
import Mailroom.Mail.Address
import Mailroom.Mail.Change

/-!
# Rows of the tables

Lists, rules, times and folders are stored as text, and read back when a row is. An
address list that cannot be read makes the whole email unreadable; a time that cannot be
read counts as missing; a rule that cannot be read is passed over.
-/

namespace Mailroom.Store

open Mailroom.Filter (Combinator Rule StoredRule)
open Mailroom.Mail
open Mailroom.Time (Instant)

structure DomainRow where
  org : OrgId
  name : String
  container : Option String
  deriving DecidableEq, Repr

def DomainRow.read (id : DomainId) (row : DomainRow) : Domain :=
  ⟨id, row.org, row.name, row.container⟩

structure IdentityRow where
  domain : DomainId
  email : String
  catchAll : Bool
  deriving DecidableEq, Repr

def renderTexts (texts : List String) : String := (Json.strings texts).render

def readTexts (text : String) : Except Error (List String) :=
  (Json.read (Json.Document.asList Json.Document.asString) text).mapError Error.unreadable

def readTime (text : Option String) : Option Instant := text.bind Instant.parse

structure EmailRow where
  org : OrgId
  domain : DomainId
  identity : IdentityId
  messageId : String
  serviceId : String
  thread : Option String
  sender : String
  senderName : Option String
  recipients : String
  cc : String
  subject : String
  snippet : String
  container : Option String
  key : Option String
  folder : String
  isRead : Bool
  readAt : Option String
  isStarred : Bool
  isArchived : Bool
  isTrashed : Bool
  trashedAt : Option String
  isSpam : Bool
  verdicts : Verdicts
  textBody : Option String
  htmlBody : Option String
  size : Int
  hasAttachments : Bool
  received : String
  deriving DecidableEq, Repr

namespace EmailRow

/-- The row of an email that has just arrived: not read, and without a body. -/
def ofNew (e : NewEmail) : EmailRow where
  org := e.org
  domain := e.domain
  identity := e.identity
  messageId := e.messageId
  serviceId := e.serviceId
  thread := e.thread
  sender := e.sender
  senderName := e.senderName
  recipients := renderTexts e.recipients
  cc := renderTexts e.cc
  subject := e.subject
  snippet := e.snippet
  container := e.storage.map Location.container
  key := e.storage.map Location.key
  folder := e.folder.name
  isRead := false
  readAt := none
  isStarred := false
  isArchived := false
  isTrashed := false
  trashedAt := none
  isSpam := e.verdicts.isSpam
  verdicts := e.verdicts
  textBody := none
  htmlBody := none
  size := 0
  hasAttachments := false
  received := e.received.render

def read (id : EmailId) (row : EmailRow) : Except Error Email := do
  let recipients ← readTexts row.recipients
  let cc ← readTexts row.cc
  return {
    id
    org := row.org
    domain := row.domain
    identity := row.identity
    messageId := row.messageId
    serviceId := row.serviceId
    thread := row.thread
    sender := row.sender
    senderName := row.senderName
    recipients
    cc
    subject := row.subject
    snippet := row.snippet
    folder := .ofName row.folder
    isRead := row.isRead
    readAt := readTime row.readAt
    isStarred := row.isStarred
    isArchived := row.isArchived
    isTrashed := row.isTrashed
    trashedAt := readTime row.trashedAt
    isSpam := row.isSpam
    verdicts := row.verdicts
    storage := Location.ofColumns row.container row.key
    textBody := row.textBody
    htmlBody := row.htmlBody
    size := row.size
    hasAttachments := row.hasAttachments
    received := (Instant.parse row.received).getD .epoch }

def assign (row : EmailRow) : Assignment → EmailRow
  | .folder name => { row with folder := name }
  | .isStarred on => { row with isStarred := on }
  | .isRead on => { row with isRead := on }
  | .readAt time => { row with readAt := some time }
  | .isArchived on => { row with isArchived := on }
  | .isTrashed on => { row with isTrashed := on }
  | .trashedAt time => { row with trashedAt := some time }
  | .textBody body => { row with textBody := body }
  | .htmlBody body => { row with htmlBody := body }
  | .size bytes => { row with size := bytes }
  | .hasAttachments on => { row with hasAttachments := on }
  | .snippet text => { row with snippet := text }

end EmailRow

structure RuleRow where
  org : OrgId
  identity : Option IdentityId
  name : String
  priority : Int
  logic : String
  conditions : String
  actions : String
  active : Bool
  /-- The column has 64 bits. It begins with zero and each match adds one, so that the bound is
  out of reach. -/
  matchCount : Int
  lastMatched : Option String
  deriving DecidableEq, Repr

namespace RuleRow

def ofRule (r : Rule) : RuleRow where
  org := r.org
  identity := r.identity
  name := r.name
  priority := r.priority
  logic := r.combinator.name
  conditions := (Filter.conditionsToJson r.conditions).render
  actions := (Filter.actionsToJson r.actions).render
  active := r.active
  matchCount := 0
  lastMatched := none

def read? (id : Filter.RuleId) (row : RuleRow) : Option StoredRule := do
  let combinator ← Combinator.ofName? row.logic
  let conditions ← (Json.read Filter.readConditions row.conditions).toOption
  let actions ← (Json.read Filter.readActions row.actions).toOption
  return {
    id
    rule := {
      org := row.org
      identity := row.identity
      name := row.name
      priority := row.priority
      combinator
      conditions
      actions
      active := row.active }
    matchCount := row.matchCount
    lastMatched := readTime row.lastMatched }

def isVisible (row : RuleRow) (org : OrgId) (identity : IdentityId) : Bool :=
  row.org == org && row.active && (row.identity.isNone || row.identity == some identity)

end RuleRow

end Mailroom.Store
