import Mailroom.Mail.Change

/-!
# Filter rules

A rule says what happens to emails for which its conditions hold. Names that are not
known are kept as `other`; they have no effect, so that rules of a later version can be
stored.
-/

namespace Mailroom.Filter

open Mailroom.Mail (Change Folder OrgId IdentityId)
open Mailroom.Time (Instant)

abbrev RuleId := Int

inductive Combinator
  | all
  | any
  deriving DecidableEq, Repr

namespace Combinator

def name : Combinator → String
  | .all => "all"
  | .any => "any"

def ofName? (name : String) : Option Combinator :=
  if name = "all" then some .all
  else if name = "any" then some .any
  else none

def sieveTest : Combinator → String
  | .all => "allof"
  | .any => "anyof"

theorem ofName?_name (c : Combinator) : ofName? c.name = some c := by cases c <;> rfl

end Combinator

inductive Field
  | sender
  /-- All recipients, with a comma and a blank between them. -/
  | recipients
  | subject
  | body
  | hasAttachment
  | other
  deriving DecidableEq, Repr

namespace Field

def name : Field → String
  | .sender => "from"
  | .recipients => "to"
  | .subject => "subject"
  | .body => "body"
  | .hasAttachment => "hasAttachment"
  | .other => "other"

def ofName (name : String) : Field :=
  match name with
  | "from" => .sender
  | "to" => .recipients
  | "subject" => .subject
  | "body" => .body
  | "hasAttachment" => .hasAttachment
  | _ => .other

theorem ofName_name (f : Field) : ofName f.name = f := by cases f <;> rfl

end Field

inductive Comparison
  | contains
  | equals
  | startsWith
  | endsWith
  | pattern
  | other
  deriving DecidableEq, Repr

namespace Comparison

def name : Comparison → String
  | .contains => "contains"
  | .equals => "equals"
  | .startsWith => "startsWith"
  | .endsWith => "endsWith"
  | .pattern => "regex"
  | .other => "other"

/-- Two comparisons have a second name. -/
def ofName (name : String) : Comparison :=
  match name with
  | "contains" => .contains
  | "equals" => .equals
  | "startsWith" => .startsWith
  | "starts_with" => .startsWith
  | "endsWith" => .endsWith
  | "ends_with" => .endsWith
  | "regex" => .pattern
  | _ => .other

theorem ofName_name (c : Comparison) : ofName c.name = c := by cases c <;> rfl

end Comparison

structure Condition where
  field : Field
  comparison : Comparison
  literal : String
  deriving DecidableEq, Repr

inductive ActionKind
  | moveToFolder
  | star
  | markRead
  | archive
  | trash
  | forward
  | reject
  | stop
  | other
  deriving DecidableEq, Repr

namespace ActionKind

def name : ActionKind → String
  | .moveToFolder => "move_to_folder"
  | .star => "star"
  | .markRead => "mark_read"
  | .archive => "archive"
  | .trash => "trash"
  | .forward => "forward"
  | .reject => "reject"
  | .stop => "stop_processing"
  | .other => "other"

/-- Two actions have a second name. -/
def ofName (name : String) : ActionKind :=
  match name with
  | "move_to_folder" => .moveToFolder
  | "star" => .star
  | "mark_starred" => .star
  | "mark_read" => .markRead
  | "archive" => .archive
  | "trash" => .trash
  | "delete" => .trash
  | "forward" => .forward
  | "reject" => .reject
  | "stop_processing" => .stop
  | _ => .other

theorem ofName_name (k : ActionKind) : ofName k.name = k := by cases k <;> rfl

end ActionKind

structure Action where
  kind : ActionKind
  argument : Option String
  deriving DecidableEq, Repr

/-- What an action changes in an email at the time `now`. Moving needs the name of a
folder; some actions only make sense in a mail server's script. -/
def Action.change? (action : Action) (now : Instant) : Option Change :=
  match action.kind with
  | .moveToFolder =>
    (action.argument.filter fun name => !name.isEmpty).map fun name => .folder (Folder.ofName name)
  | .star => some (.starred true)
  | .markRead => some (.read now)
  | .archive => some (.archived true)
  | .trash => some (.trashed now)
  | .forward | .reject | .stop | .other => none

/-- A rule as it is written. Without an identity it is for all mail of the organization. -/
structure Rule where
  org : OrgId
  identity : Option IdentityId
  name : String
  /-- Higher ones come first. -/
  priority : Int
  combinator : Combinator
  conditions : List Condition
  actions : List Action
  active : Bool
  deriving DecidableEq, Repr

structure StoredRule where
  id : RuleId
  rule : Rule
  matchCount : Int
  lastMatched : Option Instant
  deriving DecidableEq, Repr

end Mailroom.Filter
