import Mailroom.Proofs.Json.ByValue
import Mailroom.Proofs.Notification.Written

/-!
# Notifications bare and in envelopes

A bare notification is read from the value of its text, one in an envelope from the text itself.
Both ways give the same notification if the text has a value and gives no record a field twice.
-/

namespace Mailroom.Notification

open Mailroom.Json (Document Sets Written)
open Mailroom.Json.Document (Agree fieldsOnce itemsOnce ofJson)

-- ---------------------------------------------------------------------------
-- Fields that are given once
-- ---------------------------------------------------------------------------

def mailOnce : Document → Bool :=
  fieldsOnce mailInfoShape.names fun name => match name with
    | "headers" => itemsOnce (fieldsOnce headerFieldShape.names fun _ _ => true)
    | "commonHeaders" => fieldsOnce commonHeadersShape.names fun _ _ => true
    | _ => fun _ => true

def receiptOnce : Document → Bool :=
  fieldsOnce receiptShape.names fun name => match name with
    | "spamVerdict" | "virusVerdict" | "spfVerdict" | "dkimVerdict" | "dmarcVerdict" =>
      fieldsOnce verdictShape.names fun _ _ => true
    | "action" => fieldsOnce receiptActionShape.names fun _ _ => true
    | _ => fun _ => true

/-- Whether a notification and the records in it give each of their fields once. Members that are
no fields may be repeated, and all that stands in them. -/
def once : Document → Bool :=
  fieldsOnce shape.names fun name => match name with
    | "mail" => mailOnce
    | "receipt" => receiptOnce
    | _ => fun _ => true

theorem agree_text : Agree readText fun _ => true := Agree.string.option rfl

theorem agree_texts : Agree readTexts fun _ => true :=
  Agree.string.list.of_eq fun d => by cases d <;> simp [itemsOnce]

theorem agree_headerField :
    Agree readHeaderField (fieldsOnce headerFieldShape.names fun _ _ => true) := by
  refine Agree.record (fun name hname field => ?_) _
  simp only [headerFieldShape, List.mem_cons, List.not_mem_nil, or_false] at hname
  rcases hname with rfl | rfl <;> exact Agree.string.bind _

theorem agree_commonHeaders :
    Agree readCommonHeaders (fieldsOnce commonHeadersShape.names fun _ _ => true) := by
  refine Agree.record (fun name hname headers => ?_) _
  simp only [commonHeadersShape, List.mem_cons, List.not_mem_nil, or_false] at hname
  rcases hname with rfl | rfl | rfl | rfl | rfl | rfl | rfl
  · exact agree_text.bind _
  · exact agree_texts.bind _
  · exact agree_text.bind _
  · exact agree_texts.bind _
  · exact agree_texts.bind _
  · exact agree_text.bind _
  · exact agree_text.bind _

theorem agree_mailInfo : Agree readMailInfo mailOnce := by
  refine Agree.record (fun name hname mail => ?_) _
  simp only [mailInfoShape, List.mem_cons, List.not_mem_nil, or_false] at hname
  rcases hname with rfl | rfl | rfl | rfl | rfl | rfl | rfl
  · exact Agree.string.bind _
  · exact Agree.string.bind _
  · exact Agree.string.bind _
  · exact agree_texts.bind _
  · exact Agree.bool.bind _
  · exact agree_headerField.list.bind _
  · exact agree_commonHeaders.bind _

theorem agree_verdict : Agree readVerdict (fieldsOnce verdictShape.names fun _ _ => true) :=
  Agree.record (fun _ _ _ => Agree.string) _

theorem agree_receiptAction :
    Agree readReceiptAction (fieldsOnce receiptActionShape.names fun _ _ => true) := by
  refine Agree.record (fun name hname action => ?_) _
  simp only [receiptActionShape, List.mem_cons, List.not_mem_nil, or_false] at hname
  rcases hname with rfl | rfl | rfl | rfl
  · exact Agree.string.bind _
  · exact agree_text.bind _
  · exact agree_text.bind _
  · exact agree_text.bind _

theorem agree_receipt : Agree readReceipt receiptOnce := by
  refine Agree.record (fun name hname receipt => ?_) _
  simp only [receiptShape, List.mem_cons, List.not_mem_nil, or_false] at hname
  rcases hname with rfl | rfl | rfl | rfl | rfl | rfl | rfl | rfl | rfl
  · exact Agree.string.bind _
  · exact Agree.natural.bind _
  · exact agree_texts.bind _
  · exact agree_verdict.bind _
  · exact agree_verdict.bind _
  · exact agree_verdict.bind _
  · exact agree_verdict.bind _
  · exact agree_verdict.bind _
  · exact agree_receiptAction.bind _

theorem agree : Agree read once := by
  refine Agree.record (fun name hname n => ?_) _
  simp only [shape, List.mem_cons, List.not_mem_nil, or_false] at hname
  rcases hname with rfl | rfl | rfl
  · exact Agree.string.bind _
  · exact agree_mailInfo.bind _
  · exact (agree_receipt.option rfl).bind _

-- ---------------------------------------------------------------------------
-- Envelopes
-- ---------------------------------------------------------------------------

def wrap (text : String) : Json :=
  .object [("Type", .string "Notification"), ("Message", .string text)]

theorem written_wrap (depth : Nat) (text : String) :
    Written (depth + 1) readEnvelope ⟨"Notification", "", "", text, ""⟩ (wrap text) :=
  Sets.written (by decide) (.value (.string _) rfl (.absent (.absent
    (.value (.string _) rfl (.absent (.nil _))))))

theorem parse_render_wrap (text : String) : Json.parse (wrap text).render = .ok (wrap text) :=
  (written_wrap _ text).writable.parse_written

theorem parsePayload_wrap {payload text : String} (h : Json.parse payload = .ok (wrap text)) :
    parsePayload payload = (Json.read read text).map some := by
  have hread := Json.as_eq_ok_iff.mpr (written_wrap 0 text).read
  rw [parsePayload_enveloped h rfl, hread]
  rfl

theorem map_some_eq_ok {x : Json.Result Notification} {n : Notification} :
    x.map some = .ok (some n) ↔ x = .ok n := by
  cases x <;> simp [Except.map]

/-- A notification is read from an object and from an envelope around it alike, but for two
things. In an envelope no field may be given twice. Without one the whole text must have a value,
and so must what is skipped in it. -/
theorem parsePayload_wrap_iff {text payload : String} {members : List (Json.Key × Document)}
    {ending : Option Json.Fault} {rest : Json.Reader.Rest} {n : Notification}
    (hdocument : Json.Reader.document text.toList = (.object members ending, rest))
    (htype : ∀ d, (.text "Type", d) ∉ members) (hpayload : Json.parse payload = .ok (wrap text)) :
    parsePayload text = .ok (some n) ∧ once (.object members ending) ↔
      parsePayload payload = .ok (some n) ∧ ∃ value, Json.parse text = .ok value := by
  rw [parsePayload_wrap hpayload, map_some_eq_ok, Json.read_eq_ok_iff, hdocument]
  cases hparse : Json.parse text with
  | error fault =>
    have hfault : parsePayload text = .error fault := by
      rw [parsePayload, hparse]
      rfl
    simp [hfault]
  | ok j =>
    obtain ⟨hvalue, hended⟩ := Json.read_eq_ok_iff.mp hparse
    rw [hdocument] at hvalue hended
    obtain ⟨room, values, -, hvalues, rfl⟩ := Document.value_object hvalue
    have hnone : (Json.object values).get? "Type" = none := by
      refine Option.not_isSome_iff_eq_none.mp fun hsome => ?_
      obtain ⟨m, hm, hname⟩ := List.mem_map.mp (Json.isSome_get?.mp hsome)
      rcases Document.mem_of_mem_memberValues hvalues hm with hm | ⟨d, hd⟩
      · cases hm
      · exact htype d (hname ▸ hd)
    rw [parsePayload_bare hparse hnone, map_some_eq_ok, Json.as_eq_ok_iff, agree hvalue n]
    simp [hended]

namespace Sample

def skipping : String := "\x7b\"x\":null,\"notificationType\":\"R\",\"x\":[]\x7d"

def repeated : String := "\x7b\"mail\":\x7b\x7d,\"mail\":\x7b\x7d\x7d"

def unpaired : String := "\x7b\"x\":\"\\ud800\"\x7d"

theorem document_skipping : Json.Reader.document skipping.toList =
    (.object [(.text "x", .null), (.text "notificationType", .string "R"),
      (.text "x", .array [] none)] none, some []) := by
  simp only [skipping, String.reduceToList]
  rfl

theorem document_repeated : Json.Reader.document repeated.toList =
    (.object [(.text "mail", .object [] none), (.text "mail", .object [] none)] none, some []) := by
  simp only [repeated, String.reduceToList]
  rfl

theorem document_unpaired : Json.Reader.document unpaired.toList =
    (.object [(.text "x", .unpaired)] none, some []) := by
  simp only [unpaired, String.reduceToList]
  rfl

end Sample

open Sample in
theorem parsePayload_wrap_skipping :
    parsePayload skipping = .ok (some { empty with kind := "R" }) ∧
      parsePayload (wrap skipping).render = .ok (some { empty with kind := "R" }) := by
  have hbare : parsePayload skipping = .ok (some { empty with kind := "R" }) := by
    simp only [parsePayload, Json.parse, Json.read, document_skipping]
    rfl
  have htype : ∀ d, (.text "Type", d) ∉ [(Json.Key.text "x", Document.null),
      (.text "notificationType", .string "R"), (.text "x", .array [] none)] := by simp
  obtain ⟨hwrapped, -⟩ := (parsePayload_wrap_iff document_skipping htype
    (parse_render_wrap skipping)).mp ⟨hbare, by decide⟩
  exact ⟨hbare, hwrapped⟩

open Sample in
/-- Neither of the two conditions can be left out. -/
theorem parsePayload_wrap_ne :
    (∀ text ∈ [repeated, unpaired], ∃ members, (∀ d, (.text "Type", d) ∉ members) ∧
      Json.Reader.document text.toList = (.object members none, some [])) ∧
    (parsePayload repeated = .ok (some empty) ∧
      parsePayload (wrap repeated).render = .error .mismatch) ∧
    parsePayload unpaired = .error .malformed ∧
      parsePayload (wrap unpaired).render = .ok (some empty) := by
  constructor
  · simp only [List.forall_mem_cons, List.not_mem_nil, false_implies, implies_true, and_true]
    exact ⟨⟨_, by simp, document_repeated⟩, ⟨_, by simp, document_unpaired⟩⟩
  · rw [parsePayload_wrap (parse_render_wrap _), parsePayload_wrap (parse_render_wrap _)]
    simp only [parsePayload, Json.parse, Json.read, document_repeated, document_unpaired]
    exact ⟨⟨rfl, rfl⟩, rfl, rfl⟩

end Mailroom.Notification
