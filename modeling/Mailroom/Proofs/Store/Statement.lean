import Mailroom.Proofs.Store.Table
import Mailroom.Proofs.Time.Instant
import Mailroom.Store.Database

/-!
# Single changes of stored rows

A change to a row of mail is the same change to the record that is read from it, and leaves
every other column as it was. A write to a row that exists is counted, and carried out unless
the fault plan refuses it.
-/

namespace Mailroom.Mail

open Mailroom.Time (Instant)

/-- The record after a change. Times are stored as text and read back from it. -/
def Change.apply (e : Email) : Change → Email
  | .folder target => { e with folder := target }
  | .starred on => { e with isStarred := on }
  | .read time => { e with isRead := true, readAt := Instant.parse time.render }
  | .archived on => { e with isArchived := on }
  | .trashed time => { e with isTrashed := true, trashedAt := Instant.parse time.render }
  | .textBody body => { e with textBody := body }
  | .htmlBody body => { e with htmlBody := body }
  | .size bytes => { e with size := bytes }
  | .hasAttachments on => { e with hasAttachments := on }
  | .snippet text => { e with snippet := text }

theorem Change.apply_read (e : Email) {time : Instant} (h : time.Readable) :
    (Change.read time).apply e = { e with isRead := true, readAt := some time } := by
  rw [apply, Instant.parse_rendered h]

theorem Change.apply_trashed (e : Email) {time : Instant} (h : time.Readable) :
    (Change.trashed time).apply e = { e with isTrashed := true, trashedAt := some time } := by
  rw [apply, Instant.parse_rendered h]

/-- Whether a change survives storage: a folder must be what its name says. -/
def Change.Storable : Change → Prop
  | .folder target => Folder.ofName target.name = target
  | _ => True

end Mailroom.Mail

namespace Mailroom.Store

open Mailroom.Filter (RuleId)
open Mailroom.Mail
open Mailroom.Time (Instant)

-- ---------------------------------------------------------------------------
-- Rows
-- ---------------------------------------------------------------------------

def EmailRow.change (row : EmailRow) (c : Change) : EmailRow := c.assignments.foldl assign row

theorem EmailRow.read_change {id : EmailId} {row : EmailRow} {e : Email} {c : Change}
    (h : row.read id = .ok e) (hc : c.Storable) : (row.change c).read id = .ok (c.apply e) := by
  unfold read at h
  cases hr : readTexts row.recipients with
  | error fault =>
    rw [hr] at h
    cases h
  | ok recipients =>
    cases hcc : readTexts row.cc with
    | error fault =>
      rw [hr, hcc] at h
      cases h
    | ok cc =>
      rw [hr, hcc] at h
      cases h
      cases c <;>
        simp_all [change, Change.assignments, assign, read, Change.apply, Change.Storable, readTime,
          bind, Except.bind, pure, Except.pure]

def RuleRow.counted (time : Instant) (row : RuleRow) : RuleRow :=
  { row with matchCount := row.matchCount + 1, lastMatched := some time.render }

theorem RuleRow.foldl_counted (times : List Instant) (row : RuleRow) :
    times.foldl (fun row time => row.counted time) row = { row with
      matchCount := row.matchCount + times.length
      lastMatched := (times.getLast?.map Instant.render).or row.lastMatched } := by
  induction times generalizing row with
  | nil => simp
  | cons time times ih =>
    rw [List.foldl_cons, ih, RuleRow.counted]
    cases hlast : times.getLast? with
    | none =>
      rw [List.getLast?_eq_none_iff] at hlast
      simp [hlast]
    | some last =>
      simp [List.getLast?_cons, hlast]
      omega

-- ---------------------------------------------------------------------------
-- Writes
-- ---------------------------------------------------------------------------

namespace Database

def issue (db : Database) (kind : Write) (effect : Tables → Tables) : Database :=
  { db with
    writes := db.writes + 1
    tables := if db.refuses db.writes kind then db.tables else effect db.tables }

theorem write_eq_issue {α : Type} {db : Database} {kind : Write} {effect : Tables → Tables}
    {statement : Tables → Except Error (α × Tables)} (answer : α) (h : db.closed = false)
    (hs : statement db.tables = .ok (answer, effect db.tables)) :
    (db.write kind statement).2 = db.issue kind effect := by
  unfold write issue
  cases db.refuses db.writes kind <;> simp [h, change, hs]

theorem applyUpdate_single {db : Database} {id : EmailId} (h : db.closed = false)
    (he : (db.tables.emails.get? id).isSome = true) (c : Change) :
    (db.applyUpdate id (Update.empty.put c)).2 =
      db.issue (.updateEmail (c.assignments.map Assignment.column)) fun tables =>
        { tables with emails := tables.emails.modify id (·.change c) } := by
  have hassign : (Update.empty.put c).assignments = c.assignments := by
    simp [Update.put, Update.putIn, Update.empty, Update.assignments]
  have hfull : (Update.empty.put c).isEmpty = false := rfl
  obtain ⟨row, hrow⟩ := Option.isSome_iff_exists.mp he
  simp only [applyUpdate, hfull, hassign, he, if_true, Bool.false_eq_true, if_false]
  refine write_eq_issue () h ?_
  simp only [hrow]
  rfl

theorem recordMatch_issue {db : Database} {id : RuleId} (h : db.closed = false)
    (hr : (db.tables.rules.get? id).isSome = true) (time : Instant) :
    (db.recordMatch id time).2 = db.issue .recordMatch fun tables =>
      { tables with rules := tables.rules.modify id (·.counted time) } := by
  simp only [recordMatch, hr, if_true]
  exact write_eq_issue () h rfl

theorem getEmail_eq_ok {db : Database} {id : EmailId} {e : Email} (h : db.getEmail id = .ok e) :
    db.closed = false ∧ ∃ row, db.tables.emails.get? id = some row ∧ row.read id = .ok e := by
  unfold getEmail select at h
  split at h
  · cases h
  · next hopen =>
    refine ⟨by simpa using hopen, ?_⟩
    simp only at h
    split at h
    · next row hrow => exact ⟨row, hrow, h⟩
    · cases h

theorem getEmail_of_get? {db : Database} {id : EmailId} {row : EmailRow} {e : Email}
    (h : db.closed = false) (hrow : db.tables.emails.get? id = some row)
    (hread : row.read id = .ok e) : db.getEmail id = .ok e := by
  simp only [getEmail, select, h, hrow]
  exact hread

theorem getEmail_congr {db db' : Database} {id : EmailId} (h : db.closed = false)
    (h' : db'.closed = false) (hrow : db.tables.emails.get? id = db'.tables.emails.get? id) :
    db.getEmail id = db'.getEmail id := by
  simp only [getEmail, select, h, h', hrow]

/-- Apart from their ids, the attachments of an email are the rows that are about it. -/
theorem attachmentsOf_data {db : Database} (h : db.closed = false) (id : EmailId) :
    (db.attachmentsOf id).map (·.map Attachment.data) =
      .ok (db.tables.attachments.rows.filter (·.email = id)) := by
  have hrows (start : Int) (rows : List NewAttachment) :
      (((Table.number start rows).filter (·.2.email = id)).map fun e =>
        (⟨e.1, e.2⟩ : Attachment)).map Attachment.data = rows.filter (·.email = id) := by
    induction rows generalizing start with
    | nil => rfl
    | cons row rows ih =>
      by_cases hrow : row.email = id
      · simpa [Table.number, hrow] using ih (start + 1)
      · simpa [Table.number, hrow] using ih (start + 1)
  simp only [attachmentsOf, select, h]
  exact congrArg Except.ok (hrows 1 _)

end Database

end Mailroom.Store
