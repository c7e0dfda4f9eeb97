import Mailroom.Mail.Record

/-!
# Changes to a stored email

A change concerns one field of an email. An update is a list of changes to different
fields: a later change of a field takes the place of the earlier one.
-/

namespace Mailroom.Mail

open Mailroom.Time (Instant)

inductive Change
  | folder (folder : Folder)
  | starred (on : Bool)
  | read (time : Instant)
  | archived (on : Bool)
  | trashed (time : Instant)
  | textBody (body : Option String)
  | htmlBody (body : Option String)
  | size (bytes : Int)
  | hasAttachments (on : Bool)
  | snippet (text : String)
  deriving DecidableEq, Repr

inductive ChangeKind
  | folder | starred | read | archived | trashed
  | textBody | htmlBody | size | hasAttachments | snippet
  deriving DecidableEq, Repr

def Change.kind : Change → ChangeKind
  | .folder _ => .folder
  | .starred _ => .starred
  | .read _ => .read
  | .archived _ => .archived
  | .trashed _ => .trashed
  | .textBody _ => .textBody
  | .htmlBody _ => .htmlBody
  | .size _ => .size
  | .hasAttachments _ => .hasAttachments
  | .snippet _ => .snippet

inductive Column
  | folder | isStarred | isRead | readAt | isArchived | isTrashed | trashedAt
  | textBody | htmlBody | size | hasAttachments | snippet
  deriving DecidableEq, Repr

/-- A value for one column. Times and folders are stored as text. -/
inductive Assignment
  | folder (name : String)
  | isStarred (on : Bool)
  | isRead (on : Bool)
  | readAt (time : String)
  | isArchived (on : Bool)
  | isTrashed (on : Bool)
  | trashedAt (time : String)
  | textBody (body : Option String)
  | htmlBody (body : Option String)
  | size (bytes : Int)
  | hasAttachments (on : Bool)
  | snippet (text : String)
  deriving DecidableEq, Repr

def Assignment.column : Assignment → Column
  | .folder _ => .folder
  | .isStarred _ => .isStarred
  | .isRead _ => .isRead
  | .readAt _ => .readAt
  | .isArchived _ => .isArchived
  | .isTrashed _ => .isTrashed
  | .trashedAt _ => .trashedAt
  | .textBody _ => .textBody
  | .htmlBody _ => .htmlBody
  | .size _ => .size
  | .hasAttachments _ => .hasAttachments
  | .snippet _ => .snippet

def Change.assignments : Change → List Assignment
  | .folder target => [.folder target.name]
  | .starred on => [.isStarred on]
  | .read time => [.isRead true, .readAt time.render]
  | .archived on => [.isArchived on]
  | .trashed time => [.isTrashed true, .trashedAt time.render]
  | .textBody body => [.textBody body]
  | .htmlBody body => [.htmlBody body]
  | .size bytes => [.size bytes]
  | .hasAttachments on => [.hasAttachments on]
  | .snippet text => [.snippet text]

structure Update where
  changes : List Change
  deriving DecidableEq, Repr

namespace Update

def empty : Update := ⟨[]⟩

def isEmpty (u : Update) : Bool := u.changes.isEmpty

/-- Replaces the change of the same field, or adds one at the end. -/
def putIn (change : Change) : List Change → List Change
  | [] => [change]
  | c :: rest => if c.kind = change.kind then change :: rest else c :: putIn change rest

def put (u : Update) (change : Change) : Update := ⟨putIn change u.changes⟩

def ofChanges (changes : List Change) : Update := changes.foldl put empty

def assignments (u : Update) : List Assignment := u.changes.flatMap Change.assignments

end Update

end Mailroom.Mail
