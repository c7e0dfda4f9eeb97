import Mailroom.Text.Blank
import Mailroom.Text.Cut

/-!
# Addresses of mail
-/

namespace Mailroom.Mail

structure Mailbox where
  address : String
  name : Option String
  deriving DecidableEq, Repr

/-- Reads `Name <address>`. What has no angle brackets is an address as a whole. -/
def Mailbox.parse (value : String) : Mailbox :=
  let whole : Mailbox := ⟨String.ofList (Text.trim value.toList), none⟩
  match Text.cut ['<'] value.toList with
  | none => whole
  | some (before, rest) =>
    match Text.cut ['>'] rest with
    | none => whole
    | some (address, _) =>
      let name := Text.trim (Text.trimBoth (· == '"') (Text.trim before))
      ⟨String.ofList address, if name.isEmpty then none else some (String.ofList name)⟩

def domainOf? (address : String) : Option String :=
  match Text.cut ['@'] address.toList with
  | some (_, domain) => if domain.isEmpty then none else some (String.ofList domain)
  | none => none

structure Domain where
  id : Int
  org : Int
  /-- In lower case. -/
  name : String
  container : Option String
  deriving DecidableEq, Repr

structure Identity where
  id : Int
  domain : Int
  org : Int
  /-- In lower case. -/
  email : String
  catchAll : Bool
  deriving DecidableEq, Repr

end Mailroom.Mail
