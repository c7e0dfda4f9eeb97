import Mailroom.Mime.EncodedWord
import Mailroom.Mime.Parameters

/-!
# Content dispositions (RFC 2183)
-/

namespace Mailroom.Mime

inductive DispositionKind
  | inline
  | attachment
  | other (token : String)
  deriving DecidableEq, Repr

structure Disposition where
  kind : DispositionKind
  parameters : Parameters
  deriving DecidableEq, Repr

namespace Disposition

def parse (value : String) : Except Error Disposition :=
  let (token, parameters) := Parameters.split value
  if token.isEmpty then .error (.disposition value)
  else
    let token := Text.lower token
    let kind := if token = "inline" then .inline
      else if token = "attachment" then .attachment else .other token
    .ok ⟨kind, parameters⟩

def isAttachment (d : Disposition) : Bool := d.kind = .attachment

def isInline (d : Disposition) : Bool := d.kind = .inline

/-- The file name, its encoded words decoded. One that cannot be decoded is as written. -/
def filename? (d : Disposition) : Option String :=
  ((d.parameters.get? "filename").filter (!·.isEmpty)).map EncodedWord.decodeOrKeep

end Disposition

end Mailroom.Mime
