import Mailroom.Notification
import Mailroom.Proofs.Json.Record

/-!
# Notifications as texts and back

A notification is read back from its text, alone or in an envelope. Envelopes of other kinds hold
none, whatever their message is.
-/

namespace Mailroom.Notification

open Mailroom.Json (Document Sets Written member?)

variable {depth : Nat}

-- ---------------------------------------------------------------------------
-- Mail
-- ---------------------------------------------------------------------------

theorem written_texts (xs : List String) : Written (depth + 1) readTexts xs (Json.strings xs) :=
  .list fun x _ => .string x

theorem HeaderField.written (f : HeaderField) : Written (depth + 1) readHeaderField f f.toJson :=
  Sets.written (by decide) (.value (.string _) rfl (.value (.string _) rfl (.nil _)))

theorem CommonHeaders.written (h : CommonHeaders) :
    Written (depth + 2) readCommonHeaders h h.toJson := by
  obtain ⟨path, senders, date, recipients, cc, id, subject⟩ := h
  simp only [toJson, List.append_assoc]
  rw [← List.append_nil (member? "subject" subject)]
  refine Sets.written (by decide) ?_
  refine .optional (⟨·, [], none, [], [], none, none⟩) rfl (fun _ => rfl) ?_
  refine .field (⟨path, ·, none, [], [], none, none⟩) (written_texts senders) rfl ?_
  refine .optional (⟨path, senders, ·, [], [], none, none⟩) rfl (fun _ => rfl) ?_
  refine .field (⟨path, senders, date, ·, [], none, none⟩) (written_texts recipients) rfl ?_
  refine .field (⟨path, senders, date, recipients, ·, none, none⟩) (written_texts cc) rfl ?_
  refine .optional (⟨path, senders, date, recipients, cc, ·, none⟩) rfl (fun _ => rfl) ?_
  exact .optional (⟨path, senders, date, recipients, cc, id, ·⟩) rfl (fun _ => rfl) (.nil _)

theorem MailInfo.written (m : MailInfo) : Written (depth + 3) readMailInfo m m.toJson := by
  obtain ⟨timestamp, source, id, destination, truncated, headers, common⟩ := m
  refine Sets.written (by decide) ?_
  refine .value (.string timestamp) rfl (.value (.string source) rfl (.value (.string id) rfl ?_))
  refine .field (⟨timestamp, source, id, ·, false, [], .empty⟩) (written_texts destination) rfl ?_
  refine .value (.bool truncated) rfl ?_
  refine .field (⟨timestamp, source, id, destination, truncated, ·, .empty⟩)
    (.list fun f _ => f.written) rfl ?_
  exact .field (⟨timestamp, source, id, destination, truncated, headers, ·⟩) common.written rfl
    (.nil _)

-- ---------------------------------------------------------------------------
-- Receipts
-- ---------------------------------------------------------------------------

theorem written_verdict (status : String) :
    Written (depth + 1) readVerdict status (verdictJson status) :=
  Sets.written (by decide) (.value (.string status) rfl (.nil _))

theorem ReceiptAction.written (a : ReceiptAction) :
    Written (depth + 1) readReceiptAction a a.toJson := by
  obtain ⟨kind, bucket, key, stem⟩ := a
  simp only [toJson, List.append_assoc, List.cons_append]
  rw [← List.append_nil (member? "objectKeyPrefix" stem)]
  refine Sets.written (by decide) (.value (.string kind) rfl ?_)
  refine .optional (⟨kind, ·, none, none⟩) rfl (fun _ => rfl) ?_
  refine .optional (⟨kind, bucket, ·, none⟩) rfl (fun _ => rfl) ?_
  exact .optional (⟨kind, bucket, key, ·⟩) rfl (fun _ => rfl) (.nil _)

theorem Receipt.written {r : Receipt} (h : r.processingTimeMillis < Json.Numeral.limit) :
    Written (depth + 2) readReceipt r r.toJson := by
  obtain ⟨timestamp, millis, recipients, spam, virus, spf, dkim, dmarc, action⟩ := r
  refine Sets.written (by decide) (.value (.string timestamp) rfl ?_)
  refine .field (⟨timestamp, ·, [], "", "", "", "", "", .empty⟩) (.natural h) rfl ?_
  refine .field (⟨timestamp, millis, ·, "", "", "", "", "", .empty⟩) (written_texts recipients)
    rfl ?_
  refine .field (⟨timestamp, millis, recipients, ·, "", "", "", "", .empty⟩) (written_verdict spam)
    rfl ?_
  refine .field (⟨timestamp, millis, recipients, spam, ·, "", "", "", .empty⟩)
    (written_verdict virus) rfl ?_
  refine .field (⟨timestamp, millis, recipients, spam, virus, ·, "", "", .empty⟩)
    (written_verdict spf) rfl ?_
  refine .field (⟨timestamp, millis, recipients, spam, virus, spf, ·, "", .empty⟩)
    (written_verdict dkim) rfl ?_
  refine .field (⟨timestamp, millis, recipients, spam, virus, spf, dkim, ·, .empty⟩)
    (written_verdict dmarc) rfl ?_
  exact .field (⟨timestamp, millis, recipients, spam, virus, spf, dkim, dmarc, ·⟩) action.written
    rfl (.nil _)

-- ---------------------------------------------------------------------------
-- Notifications and envelopes
-- ---------------------------------------------------------------------------

theorem written {n : Notification}
    (h : ∀ r ∈ n.receipt, r.processingTimeMillis < Json.Numeral.limit) :
    Written (depth + 4) read n n.toJson := by
  obtain ⟨kind, mail, receipt⟩ := n
  refine Sets.written (by decide) (.value (.string kind) rfl ?_)
  refine .field (⟨kind, ·, none⟩) mail.written rfl ?_
  cases receipt with
  | none => exact .absent (.nil _)
  | some r =>
    have hr : Written (depth + 3) readReceipt r r.toJson := Receipt.written (h r rfl)
    exact .field (⟨kind, mail, ·⟩) hr.some rfl (.nil _)

theorem Envelope.written (e : Envelope) : Written (depth + 1) readEnvelope e e.toJson :=
  Sets.written (by decide) (.value (.string _) rfl (.value (.string _) rfl
    (.value (.string _) rfl (.value (.string _) rfl (.value (.string _) rfl (.nil _))))))

-- ---------------------------------------------------------------------------
-- Payloads
-- ---------------------------------------------------------------------------

theorem parsePayload_bare {text : String} {j : Json} (hparse : Json.parse text = .ok j)
    (htype : j.get? "Type" = none) : parsePayload text = (Json.as read j).map some := by
  rw [parsePayload, hparse]
  show (if (j.get? "Type").isSome = true then _ else _) = _
  rw [htype]
  cases Json.as read j <;> rfl

theorem parsePayload_enveloped {text : String} {j : Json} (hparse : Json.parse text = .ok j)
    (htype : (j.get? "Type").isSome = true) :
    parsePayload text = (Json.as readEnvelope j).bind Envelope.notification? := by
  rw [parsePayload, hparse]
  show (if (j.get? "Type").isSome = true then _ else _) = _
  rw [if_pos htype]
  rfl

theorem set_envelope (e : Envelope) (name s : String) :
    ∃ next, envelopeShape.set e name (.string s) = .ok next ∧
      (name = "Type" → next.kind = s) ∧ (name ≠ "Type" → next.kind = e.kind) := by
  simp only [envelopeShape]
  split
  · exact ⟨_, rfl, fun _ => rfl, fun hname => absurd rfl hname⟩
  · exact ⟨_, rfl, fun hname => absurd hname (by decide), fun _ => rfl⟩
  · exact ⟨_, rfl, fun hname => absurd hname (by decide), fun _ => rfl⟩
  · exact ⟨_, rfl, fun hname => absurd hname (by decide), fun _ => rfl⟩
  · next hname _ _ _ => exact ⟨_, rfl, fun h => absurd h hname, fun _ => rfl⟩

theorem setAll_envelope {members : List (String × Json)} (hnames : (members.map Prod.fst).Nodup)
    (hstrings : ∀ m ∈ members, ∃ s, m.2 = .string s) (e : Envelope) :
    ∃ after, envelopeShape.setAll e (Document.fields members) = .ok after ∧
      (∀ kind, ("Type", .string kind) ∈ members → after.kind = kind) ∧
      ("Type" ∉ members.map Prod.fst → after.kind = e.kind) := by
  induction members generalizing e with
  | nil => exact ⟨e, rfl, by simp⟩
  | cons m rest ih =>
    obtain ⟨name, j⟩ := m
    obtain ⟨⟨s, hs⟩, hrest⟩ := List.forall_mem_cons.mp hstrings
    obtain rfl : j = .string s := hs
    rw [List.map_cons, List.nodup_cons] at hnames
    obtain ⟨next, hset, htype, hother⟩ := set_envelope e name s
    obtain ⟨after, hafter, hkind, hkeeps⟩ := ih hnames.2 hrest next
    refine ⟨after, Document.Shape.setAll_cons_eq_ok.mpr ⟨next, hset, hafter⟩, fun kind hm => ?_,
      fun hm => ?_⟩
    · rcases List.mem_cons.mp hm with hm | hm
      · cases hm
        exact (hkeeps hnames.1).trans (htype rfl)
      · exact hkind kind hm
    · rw [List.map_cons, List.mem_cons, not_or] at hm
      exact (hkeeps hm.2).trans (hother (Ne.symm hm.1))

/-- A notification is read back from its text and from an envelope around it. An envelope of
another kind is read as none, whatever else it says. -/
theorem parsePayload_written {n : Notification}
    (h : ∀ r ∈ n.receipt, r.processingTimeMillis < Json.Numeral.limit) :
    parsePayload n.toJson.render = .ok (some n) ∧
      (∀ e : Envelope, e.kind = "Notification" → e.message = n.toJson.render →
        parsePayload e.toJson.render = .ok (some n)) ∧
      ∀ text members kind, Json.parse text = .ok (.object members) →
        ("Type", .string kind) ∈ members → kind ≠ "Notification" →
        (∀ m ∈ members, m.1 ∈ envelopeShape.names → ∃ s, m.2 = .string s) →
        parsePayload text = .ok none := by
  have hn : Written Document.maxDepth read n n.toJson := written h
  refine ⟨?_, fun e hkind hmessage => ?_, fun text members kind hparse htype hkind hstrings => ?_⟩
  · have htype : n.toJson.get? "Type" = none := by
      rw [toJson]
      cases n.receipt <;> rfl
    rw [parsePayload_bare hn.writable.parse_written htype, Json.as_eq_ok_iff.mpr hn.read]
    rfl
  · have he : Written Document.maxDepth readEnvelope e e.toJson := e.written
    rw [parsePayload_enveloped he.writable.parse_written rfl, Json.as_eq_ok_iff.mpr he.read]
    show e.notification? = _
    rw [Envelope.notification?, if_pos hkind, hmessage, hn.writable.read_render, hn.read]
    rfl
  · have hnames : (members.map Prod.fst).Nodup := Json.nodup_of_parse hparse
    have hget : ((Json.object members).get? "Type").isSome = true :=
      Json.isSome_get?.mpr (List.mem_map_of_mem htype)
    obtain ⟨e, hset, hkinds, -⟩ := setAll_envelope (hnames.sublist (List.filter_sublist.map _))
      (fun m hm => hstrings m (List.mem_filter.mp hm).1
        (List.contains_iff_mem.mp (List.mem_filter.mp hm).2)) .empty
    have hread : readEnvelope (Document.ofJson (.object members)) = .ok e :=
      (Document.asRecord_object_eq_ok_iff hnames).mpr hset
    rw [parsePayload_enveloped hparse hget, Json.as_eq_ok_iff.mpr hread]
    show e.notification? = _
    have hknown : envelopeShape.names.contains "Type" = true := by decide
    rw [Envelope.notification?, hkinds kind (List.mem_filter.mpr ⟨htype, hknown⟩), if_neg hkind]

namespace Sample

def notification : Notification where
  kind := "Received"
  mail := { MailInfo.empty with
    source := "\"Ann\" <a@example.com>"
    headers := [⟨"X-Path", "C:\\tmp\t\x01"⟩]
    commonHeaders := { CommonHeaders.empty with
      senders := ["Zoë 🐦 <z@example.com>", ""]
      subject := some "a\nb" } }
  receipt := some { Receipt.empty with
    processingTimeMillis := 18446744073709551615
    spamVerdict := "PASS"
    action := { ReceiptAction.empty with kind := "S3", objectKey := some "raw/1" } }

def envelope (kind : String) : Envelope := ⟨kind, "1", "", notification.toJson.render, ""⟩

end Sample

open Sample in
theorem parsePayload_written_sample :
    parsePayload notification.toJson.render = .ok (some notification) ∧
      parsePayload (envelope "Notification").toJson.render = .ok (some notification) ∧
      parsePayload (envelope "Other").toJson.render = .ok none := by
  have h : ∀ r ∈ notification.receipt, r.processingTimeMillis < Json.Numeral.limit := by decide
  obtain ⟨hbare, henveloped, hother⟩ := parsePayload_written h
  have hwritten : Written Document.maxDepth readEnvelope _ _ := (envelope "Other").written
  refine ⟨hbare, henveloped _ rfl rfl, hother _ _ "Other" hwritten.writable.parse_written
    List.mem_cons_self (by decide) fun m hm _ => ?_⟩
  simp only [List.mem_cons, List.not_mem_nil, or_false] at hm
  rcases hm with rfl | rfl | rfl | rfl | rfl <;> exact ⟨_, rfl⟩

end Mailroom.Notification
