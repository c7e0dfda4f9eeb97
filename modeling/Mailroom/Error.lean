import Mailroom.Json.Document
import Mailroom.Mail.Record

/-!
# What can go wrong with stored mail
-/

namespace Mailroom

open Mailroom.Mail (DomainId EmailId Location)

inductive DatabaseFault
  | closed
  | domainExists
  | danglingReference
  | refused
  deriving DecidableEq, Repr

def DatabaseFault.message : DatabaseFault → String
  | .closed => "attempted to acquire a connection on a closed pool"
  | .domainExists =>
    "error returned from database: (code: 2067) UNIQUE constraint failed: domains.name"
  | .danglingReference => "error returned from database: (code: 787) FOREIGN KEY constraint failed"
  | .refused => "error returned from database: (code: 1811) broken"

inductive Error
  | database (fault : DatabaseFault)
  | unreadable (fault : Json.Fault)
  | io
  | identityNotFound (recipients : List String)
  | invalidNotification (reason : String)
  | domainNotFound (id : DomainId)
  | emailNotFound (id : EmailId)
  | objectNotFound (location : Location)
  | invalidObjectPath (location : Location)
  | queueClosed
  deriving DecidableEq, Repr

namespace Error

def message : Error → String
  | .database fault => s!"Database error: {fault.message}"
  | .unreadable _ => "Serialization error"
  | .io => "I/O error"
  | .identityNotFound recipients =>
    let tried := ", ".intercalate recipients
    s!"No identity found for recipients: {tried}"
  | .invalidNotification reason => s!"Invalid notification: {reason}"
  | .domainNotFound id => s!"Domain not found: {id}"
  | .emailNotFound id => s!"Email not found: {id}"
  | .objectNotFound location => s!"Object not found: {location.container}/{location.key}"
  | .invalidObjectPath location => s!"Invalid object path: {location.container}/{location.key}"
  | .queueClosed => "Task queue closed"

end Error

end Mailroom
