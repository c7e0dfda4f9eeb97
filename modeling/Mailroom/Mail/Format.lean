import Mailroom.Json.Reader
import Mailroom.Mail.Record

/-!
# Verdicts as JSON
-/

namespace Mailroom.Mail.Verdicts

open Mailroom.Json (Document Result)

def absent : Verdicts := ⟨none, none, none, none, none⟩

def read : Document → Result Verdicts :=
  Document.asRecord {
    names := ["spam", "virus", "spf", "dkim", "dmarc"]
    required := 5
    set := fun verdicts name d => do
      let status ← d.asOption Document.asString
      match name with
      | "spam" => return { verdicts with spam := status }
      | "virus" => return { verdicts with virus := status }
      | "spf" => return { verdicts with spf := status }
      | "dkim" => return { verdicts with dkim := status }
      | _ => return { verdicts with dmarc := status } } absent

/-- Missing verdicts are written as null. -/
def toJson (v : Verdicts) : Json :=
  .object [("spam", Json.optional v.spam), ("virus", Json.optional v.virus),
    ("spf", Json.optional v.spf), ("dkim", Json.optional v.dkim),
    ("dmarc", Json.optional v.dmarc)]

end Mailroom.Mail.Verdicts
