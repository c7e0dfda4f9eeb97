import Mailroom.Time.Instant

/-!
# Stored mail

What is kept about a received message: whose it is, what the receiving service said
about it, where its raw bytes lie, and what has been decoded and decided since.
-/

namespace Mailroom.Mail

open Mailroom.Time (Instant)

abbrev OrgId := Int

abbrev DomainId := Int

abbrev IdentityId := Int

abbrev EmailId := Int

inductive Folder
  | inbox
  | spam
  | named (name : String)
  deriving DecidableEq, Repr

namespace Folder

def ofName (name : String) : Folder :=
  if name = "inbox" then .inbox else if name = "spam" then .spam else .named name

def name : Folder → String
  | .inbox => "inbox"
  | .spam => "spam"
  | .named name => name

theorem name_ofName (s : String) : (ofName s).name = s := by
  unfold ofName
  split
  · next h => exact h.symm
  · split
    · next h => exact h.symm
    · rfl

end Folder

structure Location where
  container : String
  key : String
  deriving DecidableEq, Repr

/-- A location needs both of its columns. -/
def Location.ofColumns (container key : Option String) : Option Location := do
  let container ← container
  let key ← key
  return ⟨container, key⟩

/-- The statuses that the receiving service gave: `PASS`, `FAIL`, `GRAY` or others. -/
structure Verdicts where
  spam : Option String
  virus : Option String
  spf : Option String
  dkim : Option String
  dmarc : Option String
  deriving DecidableEq, Repr

/-- Only a failed spam check makes spam. -/
def Verdicts.isSpam (v : Verdicts) : Bool := v.spam == some "FAIL"

def snippetLength : Nat := 200

/-- A preview: the first characters of a text, with dots if there are more. -/
def snippet (text : String) : String :=
  let cs := text.toList
  if cs.length ≤ snippetLength then text
  else String.ofList (cs.take snippetLength ++ ['.', '.', '.'])

structure NewEmail where
  org : OrgId
  domain : DomainId
  identity : IdentityId
  /-- Distinct in every stored email. -/
  messageId : String
  /-- The identifier that the receiving service gave. -/
  serviceId : String
  thread : Option String
  sender : String
  senderName : Option String
  recipients : List String
  cc : List String
  subject : String
  snippet : String
  folder : Folder
  verdicts : Verdicts
  storage : Option Location
  received : Instant
  deriving DecidableEq, Repr

structure Email where
  id : EmailId
  org : OrgId
  domain : DomainId
  identity : IdentityId
  messageId : String
  serviceId : String
  thread : Option String
  sender : String
  senderName : Option String
  recipients : List String
  cc : List String
  subject : String
  snippet : String
  folder : Folder
  isRead : Bool
  readAt : Option Instant
  isStarred : Bool
  isArchived : Bool
  isTrashed : Bool
  trashedAt : Option Instant
  isSpam : Bool
  verdicts : Verdicts
  storage : Option Location
  textBody : Option String
  htmlBody : Option String
  /-- Bytes of the raw message, once it has been decoded. -/
  size : Int
  hasAttachments : Bool
  received : Instant
  deriving DecidableEq, Repr

structure NewAttachment where
  email : EmailId
  filename : String
  contentType : String
  size : Int
  checksum : String
  contentId : Option String
  inline : Bool
  /-- Absent if the bytes could not be stored. -/
  storage : Option Location
  deriving DecidableEq, Repr

structure Attachment where
  id : Int
  data : NewAttachment
  deriving DecidableEq, Repr

end Mailroom.Mail
