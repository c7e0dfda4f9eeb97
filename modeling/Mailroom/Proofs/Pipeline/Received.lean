import Mailroom.Proofs.Pipeline.Intake

/-!
# The time of receipt

The time that a receipt gives is shifted to UTC, stored as text and read back with the email. It
comes back exactly if its year in UTC has four digits. An offset can take the first hours of the
year 0 and the last ones of 9999 out of this range, and such mail counts as received in 1970.
-/

namespace Mailroom.Pipeline.Intake

open Mailroom.Mail
open Mailroom.Time (Instant)

namespace Call

variable {c : Call} {receipt : Notification.Receipt} {t : Instant} {id : EmailId}

theorem received_through_text (hreceipt : c.notification.receipt = some receipt)
    (ht : Instant.parse receipt.timestamp = some t) (h : c.answer = .ok (.created id)) :
    ∃ e, c.after.database.getEmail id = .ok e ∧
      e.received = (Instant.parse t.render).getD .epoch := by
  obtain ⟨other, identity, row, hother, -, -, hget⟩ := getEmail_of_created h
  obtain rfl := Option.some.inj (hreceipt.symm.trans hother)
  have hreceived :
      (email c.notification receipt identity (row.read identity.domain) c.now).received = t := by
    simp [email, ht]
  refine ⟨_, hget, ?_⟩
  rw [NewEmail.record_received, hreceived]

/-- The time of receipt of a new email comes back if its year in UTC has four digits, and is the
epoch otherwise. -/
theorem received_of_created (hreceipt : c.notification.receipt = some receipt)
    (ht : Instant.parse receipt.timestamp = some t) (h : c.answer = .ok (.created id)) :
    ∃ e, c.after.database.getEmail id = .ok e ∧
      (e.received = t ↔ t.InRange) ∧ (¬ t.InRange → e.received = .epoch) := by
  obtain ⟨e, hget, hreceived⟩ := received_through_text hreceipt ht h
  rw [Instant.parse_render_of_parse ht] at hreceived
  refine ⟨e, hget, ?_⟩
  by_cases hrange : t.InRange
  · simp [hreceived, hrange]
  · have hne : Instant.epoch ≠ t := by
      rintro rfl
      exact hrange (by decide)
    simp [hreceived, hrange, hne]

end Call

namespace Stamped

def call (timestamp : String) : Call where
  before := Twice.start
  notification := { Twice.announced with
    receipt := Twice.announced.receipt.map fun receipt => { receipt with timestamp } }
  now := ⟨1700000000, 0⟩

/-- Five hours west of UTC, in the leap second at the end of 2016. -/
def leap : Call := call "2016-12-31T18:59:60.5-05:00"

/-- A minute before the year 0 in UTC. -/
def early : Call := call "0000-01-01T00:00:00+00:01"

end Stamped

theorem Call.received_of_created_leap : Stamped.leap.answer = .ok (.created 1) ∧
    ∃ e, Stamped.leap.after.database.getEmail 1 = .ok e ∧
      e.received = ⟨1483228799, 1500000000⟩ := by
  have hcreated : Stamped.leap.answer = .ok (.created 1) := rfl
  have hread : Instant.parse "2016-12-31T18:59:60.5-05:00" = some ⟨1483228799, 1500000000⟩ := by
    decide
  obtain ⟨e, hget, hiff, -⟩ := received_of_created (c := Stamped.leap) rfl hread hcreated
  exact ⟨hcreated, e, hget, hiff.mpr (by decide)⟩

theorem Call.received_before_year_zero :
    Instant.parse "0000-01-01T00:00:00+00:01" = some ⟨-62167219260, 0⟩ ∧
      Stamped.early.answer = .ok (.created 1) ∧
      ∃ e, Stamped.early.after.database.getEmail 1 = .ok e ∧
        e.received = .epoch ∧ e.received ≠ ⟨-62167219260, 0⟩ := by
  have hread : Instant.parse "0000-01-01T00:00:00+00:01" = some ⟨-62167219260, 0⟩ := by decide
  have hcreated : Stamped.early.answer = .ok (.created 1) := rfl
  obtain ⟨e, hget, hreceived⟩ := received_through_text (c := Stamped.early) rfl hread hcreated
  have hepoch : e.received = .epoch := by
    rw [hreceived, Instant.parse_render_of_parse hread, if_neg (by decide)]
    rfl
  refine ⟨hread, hcreated, e, hget, hepoch, ?_⟩
  rw [hepoch]
  decide

end Mailroom.Pipeline.Intake
