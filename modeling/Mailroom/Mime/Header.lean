import Mailroom.Text.Blank
import Mailroom.Text.Case
import Mailroom.Text.Cut

/-!
# Header blocks (RFC 5322)

Fields keep the order of their lines and their names compare up to ASCII case. Reading
stops at the first empty line. A line that begins with a space or a tab continues the
field before it, joined by one space. Lines that are neither a field nor a continuation
are dropped.
-/

namespace Mailroom.Mime

structure Field where
  name : String
  value : String
  deriving DecidableEq, Repr

structure Headers where
  fields : List Field
  deriving DecidableEq, Repr

namespace Headers

def empty : Headers := ⟨[]⟩

def add (h : Headers) (name value : String) : Headers := ⟨h.fields ++ [⟨name, value⟩]⟩

def getAll (h : Headers) (name : String) : List String :=
  (h.fields.filter fun f => Text.sameAscii f.name name).map Field.value

def get? (h : Headers) (name : String) : Option String :=
  (h.fields.find? fun f => Text.sameAscii f.name name).map Field.value

def isEmpty (h : Headers) : Bool := h.fields.isEmpty

/-- Joins a continuation to a value. An empty one leaves no trace. -/
def unfold (value : String) (continuation : List Char) : String :=
  if continuation.isEmpty then value
  else if value.isEmpty then String.ofList continuation
  else value ++ " " ++ String.ofList continuation

def absorb (latest : List Field) (line : List Char) : List Field :=
  let continues := match line with
    | c :: _ => c = ' ' || c = '\t'
    | [] => false
  if continues then
    match latest with
    | [] => []
    | f :: earlier => { f with value := unfold f.value (Text.trim line) } :: earlier
  else
    match Text.cut [':'] line with
    | none => latest
    | some (name, value) =>
      ⟨String.ofList (Text.trim name), String.ofList (Text.trim value)⟩ :: latest

def ofLines (lines : List (List Char)) : Headers :=
  ⟨((lines.takeWhile (!·.isEmpty)).foldl absorb []).reverse⟩

def parse (text : String) : Headers := ofLines (Text.lines text.toList)

end Headers

end Mailroom.Mime
