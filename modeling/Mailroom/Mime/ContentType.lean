import Mailroom.Mime.Parameters

/-!
# Content types (RFC 2045)
-/

namespace Mailroom.Mime

structure ContentType where
  main : String
  sub : String
  parameters : Parameters
  deriving DecidableEq, Repr

namespace ContentType

def textPlain : ContentType := ⟨"text", "plain", .ofList [("charset", "us-ascii")]⟩

def essence (t : ContentType) : String := t.main ++ "/" ++ t.sub

def is (t : ContentType) (main sub : String) : Bool :=
  Text.sameAscii t.main main && Text.sameAscii t.sub sub

def isMultipart (t : ContentType) : Bool := t.main == "multipart"

def charset? (t : ContentType) : Option String := t.parameters.get? "charset"

def boundary? (t : ContentType) : Option String := t.parameters.get? "boundary"

/-- The file name that older senders write here. -/
def name? (t : ContentType) : Option String := t.parameters.get? "name"

/-- Reads a value. It must begin with one type and one subtype, both not empty. -/
def parse (value : String) : Except Error ContentType :=
  let (token, parameters) := Parameters.split value
  match Text.cut ['/'] token.toList with
  | none => .error (.contentType token)
  | some (main, sub) =>
    let main := Text.trim main
    let sub := Text.trim sub
    if main.isEmpty || sub.isEmpty || sub.contains '/' then .error (.contentType token)
    else .ok ⟨String.ofList (main.map Char.toLower), String.ofList (sub.map Char.toLower), parameters⟩

end ContentType

end Mailroom.Mime
