import Mailroom.Proofs.Pipeline.Intake
import Mailroom.Proofs.Store.Registration

/-!
# Whose mail it is

Mail is filed under the identity of the first recipient that has one. For each recipient the
address counts before the domain, and who is listed before and behind makes no difference.
-/

namespace Mailroom.Pipeline.Intake

open Mailroom.Mail
open Mailroom.Store

theorem answer_finish_ne {s : State} (h : s.database.closed = false) (email : NewEmail)
    (listed : List String) :
    ((finish email).perform s).1 ≠ .error (.identityNotFound listed) := by
  cases hrefused : s.database.refuses s.database.writes .insertEmail with
  | true =>
    rw [perform_finish_refused h hrefused]
    simp
  | false =>
    by_cases stored : email.messageId ∈ s.database.messageIds
    · rw [perform_finish_duplicate ⟨h, hrefused⟩ stored]
      simp
    · rw [perform_finish_created ⟨h, hrefused⟩ stored]
      simp

namespace Call

/-- A new email belongs to an identity and to its domain and organization, and there is one unless
the message id is stored or the insertion fails. -/
structure FiledUnder (c : Call) (identity : IdentityId) : Prop where
  creates : c.before.database.TakesMail → recordId c.notification ∉ c.before.database.messageIds →
    ∃ id, c.answer = .ok (.created id)
  record : ∀ id, c.answer = .ok (.created id) → ∃ row domain e,
    c.before.database.tables.identities.get? identity = some row ∧
      c.before.database.tables.domains.get? row.domain = some domain ∧
      c.after.database.getEmail id = .ok e ∧
      e.identity = identity ∧ e.domain = row.domain ∧ e.org = domain.org

variable {c : Call} {receipt : Notification.Receipt}

theorem filedUnder_of_found (isOpen : c.before.database.closed = false)
    (hkind : c.notification.kind = "Received") (hreceipt : c.notification.receipt = some receipt)
    {identity : Identity} (holds : c.before.database.tables.Holds identity)
    (hfound : receipt.recipients.findSome? (Database.identityFor? c.before.database.tables) =
      some identity) : c.FiledUnder identity.id where
  creates takes fresh := by
    obtain ⟨row, -, hperform⟩ := perform_receive_some isOpen c.notification c.now hfound
    rw [answer, ingest_eq_receive hkind hreceipt, hperform,
      perform_finish_created takes (messageId_email .. ▸ fresh)]
    exact ⟨_, rfl⟩
  record id hid := by
    obtain ⟨other, same, domain, hother, hsame, hdomain, hget⟩ := getEmail_of_created hid
    obtain rfl := Option.some.inj (hreceipt.symm.trans hother)
    obtain rfl := Option.some.inj (hfound.symm.trans hsame)
    obtain ⟨row, found, hrow, hrowDomain, heq⟩ := holds
    refine ⟨row, found, _, hrow, hrowDomain, hget, rfl, ?_, ?_⟩
    · rw [NewEmail.record_domain, email, heq]
    · rw [NewEmail.record_org, email, heq]

/-- Received mail goes to the identity of the first recipient that has one, whoever else is listed,
and a call fails for want of an identity exactly if no recipient has one. -/
theorem attribution (registered : c.before.database.tables.Registered)
    (isOpen : c.before.database.closed = false) (hkind : c.notification.kind = "Received")
    (hreceipt : c.notification.receipt = some receipt) :
    (∀ listed, c.answer = .error (.identityNotFound listed) ↔ listed = receipt.recipients ∧
      ∀ r ∈ receipt.recipients, ∀ id, ¬ c.before.database.tables.IsIdentityOf r id) ∧
    ∀ front r rest identity, receipt.recipients = front ++ r :: rest →
      (∀ other ∈ front, ∀ id, ¬ c.before.database.tables.IsIdentityOf other id) →
      c.before.database.tables.IsIdentityOf r identity → c.FiledUnder identity := by
  have owned := registered.owned
  constructor
  · intro listed
    rw [answer, ingest_eq_receive hkind hreceipt]
    simp only [← owned.identityFor?_eq_none_iff, ← List.findSome?_eq_none_iff]
    cases hfound : receipt.recipients.findSome? (Database.identityFor? c.before.database.tables) with
    | none =>
      rw [perform_receive_none isOpen c.notification c.now hfound]
      simp [eq_comm]
    | some identity =>
      obtain ⟨row, -, hperform⟩ := perform_receive_some isOpen c.notification c.now hfound
      rw [hperform]
      exact iff_of_false (answer_finish_ne isOpen _ listed) (by simp)
  · intro front r rest identity hrecipients hfront hidentity
    obtain ⟨x, hholds, rfl, hsome⟩ := owned.identityFor?_of_isIdentityOf hidentity
    have hnone : front.findSome? (Database.identityFor? c.before.database.tables) = none :=
      List.findSome?_eq_none_iff.mpr fun other hother =>
        owned.identityFor?_eq_none_iff.mpr (hfront other hother)
    refine filedUnder_of_found isOpen hkind hreceipt hholds ?_
    rw [hrecipients, List.findSome?_append, hnone, Option.none_or, List.findSome?_cons, hsome]

end Call

namespace Shared

def database : Database :=
  let domain := (Database.empty.createDomain 7 "Example.com" (some "inbound")).2
  let catchAll := (domain.createIdentity 1 "all@example.com" true).2
  (catchAll.createIdentity 1 "Bob@Example.com" false).2

theorem registered : database.tables.Registered :=
  .createIdentity (.createIdentity (.createDomain (.start rfl rfl) _ _ _) _ _ _) _ _ _

def receipt : Notification.Receipt where
  timestamp := ""
  processingTimeMillis := 0
  recipients := ["bob@example.org", "Eve@example.com", "bob@example.com"]
  spamVerdict := ""
  virusVerdict := ""
  spfVerdict := ""
  dkimVerdict := ""
  dmarcVerdict := ""
  action := .empty

/-- The address of the last recipient is known, but the domain of the one before counts. -/
def call : Call where
  before := ⟨database, .inMemory, .empty⟩
  notification :=
    { kind := "Received"
      mail := { Notification.MailInfo.empty with messageId := "ses-1" }
      receipt := some receipt }
  now := .epoch

end Shared

theorem Call.attribution_shared : Shared.call.answer = .ok (.created 1) ∧
    ∃ e, Shared.call.after.database.getEmail 1 = .ok e ∧ e.identity = 1 ∧ e.domain = 1 ∧
      e.org = 7 := by
  have owned := Shared.registered.owned
  obtain ⟨-, hfiled⟩ := attribution (c := Shared.call) Shared.registered rfl rfl rfl
  have hfront : ∀ other ∈ ["bob@example.org"], ∀ id,
      ¬ Shared.database.tables.IsIdentityOf other id := by
    simp only [List.forall_mem_singleton]
    exact owned.identityFor?_eq_none_iff.mp (by decide)
  have hfound : Database.identityFor? Shared.database.tables "Eve@example.com" =
      some ⟨1, 1, 7, "all@example.com", true⟩ := by decide
  have hidentity := (owned.identityFor?_eq_some_iff.mp hfound).2
  have hcreated : Shared.call.answer = .ok (.created 1) := rfl
  obtain ⟨row, domain, e, hrow, hdomain, hget, hid, hedomain, horg⟩ :=
    (hfiled ["bob@example.org"] "Eve@example.com" ["bob@example.com"] 1 rfl hfront
      hidentity).record 1 hcreated
  cases hrow
  cases hdomain
  exact ⟨hcreated, e, hget, hid, hedomain, horg⟩

end Mailroom.Pipeline.Intake
