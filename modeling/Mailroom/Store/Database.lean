import Mailroom.Store.Row
import Mailroom.Store.Table
import Mailroom.Text.Case

/-!
# The database of stored mail

Each function is one statement: it answers and changes the tables as a whole, or fails
and changes nothing. A fault plan can refuse writes; a closed database refuses
everything.
-/

namespace Mailroom.Store

open Mailroom.Filter (Rule RuleId StoredRule)
open Mailroom.Mail
open Mailroom.Time (Instant)

structure Tables where
  domains : Table DomainRow
  identities : Table IdentityRow
  /-- Message ids are distinct. -/
  emails : Table EmailRow
  attachments : Table NewAttachment
  rules : Table RuleRow
  deriving DecidableEq, Repr

def Tables.empty : Tables := ⟨.empty, .empty, .empty, .empty, .empty⟩

/-- A write that a fault plan can refuse. -/
inductive Write
  | insertEmail
  | insertAttachment
  | updateEmail (columns : List Column)
  | recordMatch
  deriving DecidableEq, Repr

/-- Tables with a plan of failures: `refuses` is asked before each write, with the number
of writes so far. -/
structure Database where
  tables : Tables
  refuses : Nat → Write → Bool
  writes : Nat
  closed : Bool

inductive Insertion
  | created (id : EmailId)
  | duplicate
  deriving DecidableEq, Repr

namespace Database

def reliable (_ : Nat) (_ : Write) : Bool := false

def empty : Database := ⟨.empty, reliable, 0, false⟩

def close (db : Database) : Database := { db with closed := true }

/-- Refuses the writes that a plan names, besides those refused so far. -/
def refuse (db : Database) (plan : Nat → Write → Bool) : Except Error Unit × Database :=
  if db.closed then (.error (.database .closed), db)
  else (.ok (), { db with refuses := fun n write => plan n write || db.refuses n write })

def select {α : Type} (db : Database) (query : Tables → Except Error α) : Except Error α :=
  if db.closed then .error (.database .closed) else query db.tables

/-- Changes the tables, unless the database is closed. If the statement fails, nothing is
changed. -/
def change {α : Type} (db : Database) (statement : Tables → Except Error (α × Tables)) :
    Except Error α × Database :=
  if db.closed then (.error (.database .closed), db)
  else match statement db.tables with
    | .error e => (.error e, db)
    | .ok (answer, tables) => (.ok answer, { db with tables })

def write {α : Type} (db : Database) (kind : Write)
    (statement : Tables → Except Error (α × Tables)) : Except Error α × Database :=
  if db.closed then (.error (.database .closed), db)
  else
    let counted := { db with writes := db.writes + 1 }
    if db.refuses db.writes kind then (.error (.database .refused), counted)
    else counted.change statement

/-! ## Domains and identities -/

def createDomain (db : Database) (org : OrgId) (name : String) (container : Option String) :
    Except Error Domain × Database :=
  db.change fun tables =>
    let row : DomainRow := ⟨org, Text.lower name, container⟩
    if tables.domains.rows.any (·.name == row.name) then .error (.database .domainExists)
    else
      let (id, domains) := tables.domains.insert row
      .ok (row.read id, { tables with domains })

def getDomain (db : Database) (id : DomainId) : Except Error Domain :=
  db.select fun tables => match tables.domains.get? id with
    | some row => .ok (row.read id)
    | none => .error (.domainNotFound id)

/-- An identity with the organization of its domain. -/
def readIdentity? (tables : Tables) (id : IdentityId) (row : IdentityRow) : Option Identity :=
  (tables.domains.get? row.domain).map fun domain =>
    ⟨id, row.domain, domain.org, row.email, row.catchAll⟩

def createIdentity (db : Database) (domain : DomainId) (email : String) (catchAll : Bool) :
    Except Error Identity × Database :=
  db.change fun tables => match tables.domains.get? domain with
    | none => .error (.domainNotFound domain)
    | some domainRow =>
      let row : IdentityRow := ⟨domain, Text.lower email, catchAll⟩
      let (id, identities) := tables.identities.insert row
      .ok (⟨id, domain, domainRow.org, row.email, catchAll⟩, { tables with identities })

def findIdentity? (tables : Tables) (p : Identity → Bool) : Option Identity :=
  (tables.identities.entries.filterMap fun e => readIdentity? tables e.1 e.2).find? p

def findByAddress (db : Database) (address : String) : Except Error (Option Identity) :=
  db.select fun tables => .ok (findIdentity? tables (·.email == Text.lower address))

/-- The first identity that takes all other mail of a domain. -/
def findCatchAll (db : Database) (domain : String) : Except Error (Option Identity) :=
  db.select fun tables => .ok (findIdentity? tables fun identity =>
    identity.catchAll &&
      ((tables.domains.get? identity.domain).any fun row => row.name == Text.lower domain))

/-! ## Rules -/

def createRule (db : Database) (rule : Rule) : Except Error StoredRule × Database :=
  db.change fun tables =>
    let (id, rules) := tables.rules.insert (.ofRule rule)
    .ok (⟨id, rule, 0, none⟩, { tables with rules })

def insertRuleRow (db : Database) (row : RuleRow) : Except Error RuleId × Database :=
  db.change fun tables =>
    let (id, rules) := tables.rules.insert row
    .ok (id, { tables with rules })

def getRule (db : Database) (id : RuleId) : Except Error (Option StoredRule) :=
  db.select fun tables => .ok ((tables.rules.get? id).bind (RuleRow.read? id))

/-- The readable rules in use for mail of an identity, by falling priority and then in the
order of their creation. -/
def rulesFor (db : Database) (org : OrgId) (identity : IdentityId) :
    Except Error (List StoredRule) :=
  db.select fun tables =>
    let visible := tables.rules.entries.filter fun e => e.2.isVisible org identity
    let ordered := visible.mergeSort fun a b => decide (b.2.priority ≤ a.2.priority)
    .ok (ordered.filterMap fun e => e.2.read? e.1)

def rulesOf (db : Database) (org : OrgId) : Except Error (List StoredRule) :=
  db.select fun tables =>
    .ok ((tables.rules.entries.filter (·.2.org = org)).filterMap fun e => e.2.read? e.1)

def recordMatch (db : Database) (id : RuleId) (time : Instant) : Except Error Unit × Database :=
  let counted (row : RuleRow) : RuleRow :=
    { row with matchCount := row.matchCount + 1, lastMatched := some time.render }
  let statement (tables : Tables) : Except Error (Unit × Tables) :=
    .ok ((), { tables with rules := tables.rules.modify id counted })
  if (db.tables.rules.get? id).isSome then db.write .recordMatch statement
  else db.change statement

/-! ## Emails -/

def insertEmail (db : Database) (email : NewEmail) : Except Error Insertion × Database :=
  db.write .insertEmail fun tables =>
    if tables.emails.rows.any (·.messageId == email.messageId) then .ok (.duplicate, tables)
    else
      let (id, emails) := tables.emails.insert (.ofNew email)
      .ok (.created id, { tables with emails })

def getEmail (db : Database) (id : EmailId) : Except Error Email :=
  db.select fun tables => match tables.emails.get? id with
    | some row => row.read id
    | none => .error (.emailNotFound id)

def findEmail (db : Database) (messageId : String) : Except Error (Option Email) :=
  db.select fun tables => match tables.emails.find? (·.messageId == messageId) with
    | some (id, row) => (row.read id).map some
    | none => .ok none

def countEmails (db : Database) : Except Error Nat :=
  db.select fun tables => .ok tables.emails.size

/-- Changes some columns of an email and no others. An empty update does nothing, whether
or not there is such an email. -/
def applyUpdate (db : Database) (id : EmailId) (update : Update) : Except Error Unit × Database :=
  if update.isEmpty then (.ok (), db)
  else
    let statement (tables : Tables) : Except Error (Unit × Tables) :=
      match tables.emails.get? id with
      | none => .error (.emailNotFound id)
      | some _ =>
        let changed (row : EmailRow) := update.assignments.foldl EmailRow.assign row
        .ok ((), { tables with emails := tables.emails.modify id changed })
    if (db.tables.emails.get? id).isSome then
      db.write (.updateEmail (update.assignments.map Assignment.column)) statement
    else db.change statement

/-- Overwrites columns of an email as they are stored. `f` assigns `columns` and may assign
what no update can. -/
def modifyEmailRow (db : Database) (id : EmailId) (columns : List Column)
    (f : EmailRow → EmailRow) : Except Error Unit × Database :=
  let statement (tables : Tables) : Except Error (Unit × Tables) :=
    .ok ((), { tables with emails := tables.emails.modify id f })
  if (db.tables.emails.get? id).isSome then db.write (.updateEmail columns) statement
  else db.change statement

/-! ## Attachments -/

def addAttachment (db : Database) (attachment : NewAttachment) :
    Except Error Attachment × Database :=
  db.write .insertAttachment fun tables =>
    match tables.emails.get? attachment.email with
    | none => .error (.database .danglingReference)
    | some _ =>
      let (id, attachments) := tables.attachments.insert attachment
      .ok (⟨id, attachment⟩, { tables with attachments })

def attachmentsOf (db : Database) (email : EmailId) : Except Error (List Attachment) :=
  db.select fun tables =>
    .ok ((tables.attachments.entries.filter (·.2.email = email)).map fun e => ⟨e.1, e.2⟩)

end Database

end Mailroom.Store
