import Mailroom.Mime.Part

/-!
# Messages

A message is a part of its own together with its leaves: the parts that are left when
multiparts inside multiparts are opened. Multiparts are opened down to eight levels, the
message itself counted; what lies deeper stays closed.
-/

namespace Mailroom.Mime

structure Message extends Part where
  /-- The leaves of a multipart message in document order, none of any other message. -/
  parts : List Part
  deriving DecidableEq, Repr

namespace Message

def maxLevels : Nat := 8

/-- A part, or its leaves if it can be opened and levels are left. -/
def leaves : (levels : Nat) → Part → List Part
  | 0, p => [p]
  | levels + 1, p =>
    match p.sections? with
    | none => [p]
    | some sections => sections.flatMap fun raw => leaves levels (Part.parse raw)

/-- Reads a raw message (RFC 5322). A multipart message must have a boundary, and its
body a delimiter. -/
def parse (raw : List UInt8) : Except Error Message :=
  let whole := Part.parse raw
  match whole.contentType with
  | .error _ => .ok ⟨whole, []⟩
  | .ok type =>
    if !type.isMultipart then .ok ⟨whole, []⟩
    else match type.boundary? with
      | none => .error .missingBoundary
      | some boundary => do
        let sections ← Multipart.split whole.body boundary
        return ⟨whole, sections.flatMap fun raw => leaves (maxLevels - 1) (Part.parse raw)⟩

end Message

end Mailroom.Mime
