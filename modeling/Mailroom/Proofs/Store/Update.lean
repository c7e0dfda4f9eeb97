import Mailroom.Proofs.Mail.Update
import Mailroom.Proofs.Store.Attachments
import Mailroom.Proofs.Store.Columns
import Mailroom.Proofs.Store.Statement

/-!
# Changes together and one by one

An update that is made of some changes leaves the tables as the changes leave them when each is an
update of its own, one after the other (`applyUpdate_ofChanges`). Changes of different fields can
change places, as they assign different columns, and a later change of a field undoes an earlier
one.
-/

namespace Mailroom.Store

open Mailroom.Mail

-- ---------------------------------------------------------------------------
-- Rows
-- ---------------------------------------------------------------------------

namespace EmailRow

theorem foldl_assignments (row : EmailRow) (u : Update) :
    u.assignments.foldl assign row = u.changes.foldl change row := by
  rw [Update.assignments, List.foldl_flatMap]
  rfl

theorem foldl_assign_comm (row : EmailRow) {first second : List Assignment}
    (h : ∀ a ∈ first, ∀ b ∈ second, a.column ≠ b.column) :
    second.foldl assign (first.foldl assign row) = first.foldl assign (second.foldl assign row) := by
  induction first generalizing row with
  | nil => rfl
  | cons a rest ih =>
    obtain ⟨ha, hrest⟩ := List.forall_mem_cons.mp h
    rw [List.foldl_cons, List.foldl_cons, ih _ hrest, assign_foldl row ha]

theorem change_comm (row : EmailRow) {c d : Change} (h : c.kind ≠ d.kind) :
    (row.change c).change d = (row.change d).change c := by
  refine foldl_assign_comm row fun a ha b hb hcolumn => h ?_
  rw [← Change.kind_of_mem_columns (List.mem_map_of_mem ha),
    ← Change.kind_of_mem_columns (List.mem_map_of_mem hb), hcolumn]

theorem change_change (row : EmailRow) {c d : Change} (h : c.kind = d.kind) :
    (row.change c).change d = row.change d := by
  cases c <;> cases d <;> first | rfl | cases h

theorem foldl_change_comm (row : EmailRow) {c : Change} {changes : List Change}
    (h : c.kind ∉ changes.map Change.kind) :
    changes.foldl change (row.change c) = (changes.foldl change row).change c := by
  induction changes generalizing row with
  | nil => rfl
  | cons d rest ih =>
    simp only [List.map_cons, List.mem_cons, not_or] at h
    rw [List.foldl_cons, List.foldl_cons, change_comm row h.1, ih _ h.2]

theorem foldl_change_putIn (row : EmailRow) (c : Change) {changes : List Change}
    (h : (changes.map Change.kind).Nodup) :
    (Update.putIn c changes).foldl change row = (changes.foldl change row).change c := by
  induction changes generalizing row with
  | nil => rfl
  | cons d rest ih =>
    obtain ⟨hd, hrest⟩ := List.nodup_cons.mp h
    rw [Update.putIn]
    split
    · next hkind =>
      rw [List.foldl_cons, List.foldl_cons, foldl_change_comm _ hd, change_change _ hkind,
        foldl_change_comm _ (hkind ▸ hd)]
    · rw [List.foldl_cons, List.foldl_cons, ih _ hrest]

theorem foldl_change_ofChanges (row : EmailRow) (changes : List Change) :
    (Update.ofChanges changes).changes.foldl change row = changes.foldl change row := by
  induction changes using List.reverseRecOn with
  | nil => rfl
  | append_singleton changes c ih =>
    rw [Update.ofChanges_concat, foldl_change_putIn _ _ (Update.nodup_kinds_ofChanges changes), ih,
      List.foldl_append]
    rfl

-- ---------------------------------------------------------------------------
-- Columns that stay
-- ---------------------------------------------------------------------------

def restore (old row : EmailRow) : Column → EmailRow
  | .folder => { row with folder := old.folder }
  | .isStarred => { row with isStarred := old.isStarred }
  | .isRead => { row with isRead := old.isRead }
  | .readAt => { row with readAt := old.readAt }
  | .isArchived => { row with isArchived := old.isArchived }
  | .isTrashed => { row with isTrashed := old.isTrashed }
  | .trashedAt => { row with trashedAt := old.trashedAt }
  | .textBody => { row with textBody := old.textBody }
  | .htmlBody => { row with htmlBody := old.htmlBody }
  | .size => { row with size := old.size }
  | .hasAttachments => { row with hasAttachments := old.hasAttachments }
  | .snippet => { row with snippet := old.snippet }

/-- The rows are the same but for some columns: with these put back, nothing is left of the
difference. -/
def SameOutside (columns : List Column) (before after : EmailRow) : Prop :=
  columns.foldl before.restore after = before

theorem restore_self (row : EmailRow) (column : Column) : row.restore row column = row := by
  cases column <;> rfl

theorem restore_comm (old row : EmailRow) (a b : Column) :
    old.restore (old.restore row a) b = old.restore (old.restore row b) a := by
  cases a <;> cases b <;> rfl

theorem restore_assign (old row : EmailRow) (a : Assignment) :
    old.restore (row.assign a) a.column = old.restore row a.column := by
  cases a <;> rfl

theorem restore_foldl (old row : EmailRow) (columns : List Column) (column : Column) :
    old.restore (columns.foldl old.restore row) column =
      columns.foldl old.restore (old.restore row column) := by
  induction columns generalizing row with
  | nil => rfl
  | cons c rest ih => rw [List.foldl_cons, List.foldl_cons, ih, restore_comm]

theorem SameOutside.refl (row : EmailRow) : SameOutside [] row row := rfl

theorem SameOutside.assign {before after : EmailRow} {columns : List Column}
    (h : SameOutside columns before after) (a : Assignment) :
    SameOutside (columns ++ [a.column]) before (after.assign a) := by
  unfold SameOutside at h ⊢
  rw [List.foldl_append, List.foldl_cons, List.foldl_nil, restore_foldl, restore_assign,
    ← restore_foldl, h, restore_self]

theorem SameOutside.change {before after : EmailRow} {columns : List Column}
    (h : SameOutside columns before after) (c : Change) :
    SameOutside (columns ++ c.columns) before (after.change c) := by
  unfold EmailRow.change Change.columns
  induction c.assignments generalizing columns after with
  | nil => simpa using h
  | cons a rest ih => simpa using ih (h.assign a)

theorem SameOutside.changes {before after : EmailRow} {columns : List Column}
    (h : SameOutside columns before after) (changes : List Change) :
    SameOutside (columns ++ changes.flatMap Change.columns) before
      (changes.foldl EmailRow.change after) := by
  induction changes generalizing columns after with
  | nil => simpa using h
  | cons c rest ih => simpa using ih (h.change c)

end EmailRow

-- ---------------------------------------------------------------------------
-- Tables
-- ---------------------------------------------------------------------------

namespace Tables

def withChanges (tables : Tables) (id : EmailId) (changes : List Change) : Tables :=
  { tables with emails := tables.emails.modify id fun row => changes.foldl EmailRow.change row }

structure SameOutside (id : EmailId) (columns : List Column) (before after : Tables) : Prop where
  others : after = { before with emails := after.emails }
  size : after.emails.size = before.emails.size
  rows : ∀ other, other ≠ id → after.emails.get? other = before.emails.get? other
  row : ∀ row, before.emails.get? id = some row →
    ∃ changed, after.emails.get? id = some changed ∧ row.SameOutside columns changed

theorem sameOutside_withChanges (tables : Tables) (id : EmailId) (changes : List Change) :
    SameOutside id (changes.flatMap Change.columns) tables (tables.withChanges id changes) where
  others := rfl
  size := tables.emails.size_modify id _
  rows _ hother := tables.emails.get?_modify_of_ne _ hother
  row row hrow := by
    refine ⟨changes.foldl EmailRow.change row, ?_, (EmailRow.SameOutside.refl row).changes changes⟩
    rw [withChanges, Table.get?_modify_self, hrow]
    rfl

end Tables

-- ---------------------------------------------------------------------------
-- Updates
-- ---------------------------------------------------------------------------

namespace Database

/-- The changes one after the other, each as an update of its own, until one fails. -/
def applySingly (db : Database) (id : EmailId) : List Change → Except Error Unit × Database
  | [] => (.ok (), db)
  | c :: rest =>
    match db.applyUpdate id (Update.empty.put c) with
    | (.ok (), after) => after.applySingly id rest
    | (.error e, after) => (.error e, after)

def TakesUpdates (db : Database) : Prop :=
  ∀ n columns, db.refuses n (.updateEmail columns) = false

section
variable {db : Database} {id : EmailId} {u : Update} {changes : List Change}

theorem applyUpdate_closed (hclosed : db.closed = true) (hu : u.isEmpty = false) :
    db.applyUpdate id u = (.error (.database .closed), db) := by
  simp [applyUpdate, hu, write, change, hclosed]

theorem applyUpdate_missing (hopen : db.closed = false) (hu : u.isEmpty = false)
    (hrow : db.tables.emails.get? id = none) :
    db.applyUpdate id u = (.error (.emailNotFound id), db) := by
  simp [applyUpdate, hu, change, hopen, hrow]

theorem applyUpdate_stored (htakes : db.TakesUpdates) (hopen : db.closed = false)
    (hu : u.isEmpty = false) (hrow : (db.tables.emails.get? id).isSome = true) :
    db.applyUpdate id u = (.ok (), { db with
      writes := db.writes + 1
      tables := db.tables.withChanges id u.changes }) := by
  obtain ⟨row, hrow⟩ := Option.isSome_iff_exists.mp hrow
  simp [applyUpdate, hu, write, change, htakes _ _, hopen, hrow, Tables.withChanges,
    EmailRow.foldl_assignments]

theorem applySingly_error {e : Error} (hne : changes ≠ [])
    (h : ∀ u : Update, u.isEmpty = false → db.applyUpdate id u = (.error e, db)) :
    db.applySingly id changes = (.error e, db) := by
  obtain ⟨c, rest, rfl⟩ := List.exists_cons_of_ne_nil hne
  rw [applySingly, h _ rfl]

theorem applySingly_stored (htakes : db.TakesUpdates) (hopen : db.closed = false)
    (hrow : (db.tables.emails.get? id).isSome = true) :
    db.applySingly id changes = (.ok (), { db with
      writes := db.writes + changes.length
      tables := db.tables.withChanges id changes }) := by
  induction changes generalizing db with
  | nil => simp [applySingly, Tables.withChanges, Table.modify_same]
  | cons c rest ih =>
    have hafter : ((db.tables.withChanges id [c]).emails.get? id).isSome = true := by
      rwa [Tables.withChanges, Table.isSome_get?_modify]
    have hlater : (db.tables.withChanges id [c]).withChanges id rest =
        db.tables.withChanges id (c :: rest) := by
      simp [Tables.withChanges, Table.modify_modify]
    have hcount : db.writes + 1 + rest.length = db.writes + (c :: rest).length := by
      rw [List.length_cons]
      omega
    rw [applySingly, applyUpdate_stored htakes hopen rfl hrow]
    refine (@ih { db with
      writes := db.writes + 1
      tables := db.tables.withChanges id [c] } htakes hopen hafter).trans ?_
    rw [hlater, hcount]

theorem withChanges_ofChanges (tables : Tables) (id : EmailId) (changes : List Change) :
    tables.withChanges id (Update.ofChanges changes).changes = tables.withChanges id changes := by
  simp only [Tables.withChanges, EmailRow.foldl_change_ofChanges]

/-- An update that is made of some changes has the last one of each field. It answers and leaves
the tables as the changes do one by one, it finds no email exactly if there is none, and otherwise
nothing is changed but the columns of the changes in the row of the email. -/
theorem applyUpdate_ofChanges (htakes : db.TakesUpdates) (id : EmailId) (hne : changes ≠ []) :
    (Update.ofChanges changes).Gathers changes ∧
      (db.applyUpdate id (.ofChanges changes)).1 = (db.applySingly id changes).1 ∧
      (db.applyUpdate id (.ofChanges changes)).2.tables = (db.applySingly id changes).2.tables ∧
      ((db.applyUpdate id (.ofChanges changes)).1 = .error (.emailNotFound id) ↔
        db.closed = false ∧ db.tables.emails.get? id = none) ∧
      (∀ e, (db.applyUpdate id (.ofChanges changes)).1 = .error e →
        (db.applyUpdate id (.ofChanges changes)).2 = db ∧ (db.applySingly id changes).2 = db) ∧
      (db.closed = false → db.tables.emails.get? id ≠ none →
        (db.applyUpdate id (.ofChanges changes)).1 = .ok () ∧
          Tables.SameOutside id (changes.flatMap Change.columns) db.tables
            (db.applyUpdate id (.ofChanges changes)).2.tables) := by
  refine ⟨Update.gathers_ofChanges changes, ?_⟩
  have hu := Update.isEmpty_ofChanges hne
  by_cases hclosed : db.closed = true
  · rw [applyUpdate_closed hclosed hu, applySingly_error hne fun _ => applyUpdate_closed hclosed]
    simp [hclosed]
  · have hopen : db.closed = false := by simpa using hclosed
    cases hrow : db.tables.emails.get? id with
    | none =>
      rw [applyUpdate_missing hopen hu hrow,
        applySingly_error hne fun _ hu => applyUpdate_missing hopen hu hrow]
      simp [hopen]
    | some row =>
      have hsome : (db.tables.emails.get? id).isSome = true := by simp [hrow]
      rw [applyUpdate_stored htakes hopen hu hsome, applySingly_stored htakes hopen hsome,
        withChanges_ofChanges]
      refine ⟨rfl, rfl, by simp, by simp, fun _ _ => ⟨rfl, ?_⟩⟩
      exact db.tables.sameOutside_withChanges id changes

end

namespace Restarred

def email (messageId : String) : NewEmail where
  org := 7
  domain := 1
  identity := 1
  messageId
  serviceId := messageId
  thread := none
  sender := "alice@example.com"
  senderName := none
  recipients := ["bob@example.com"]
  cc := []
  subject := "Hello"
  snippet := "Hello"
  folder := .inbox
  verdicts := ⟨none, none, none, none, none⟩
  storage := none
  received := .epoch

def start : Database := { Database.empty with
  tables := { Tables.empty with emails := ⟨[.ofNew (email "a"), .ofNew (email "b")]⟩ } }

def changes : List Change :=
  [.starred true, .folder .spam, .read .epoch, .starred false, .folder (.named "Later")]

end Restarred

theorem applyUpdate_ofChanges_restarred :
    Restarred.start.TakesUpdates ∧ Restarred.changes ≠ [] ∧
      (Update.ofChanges Restarred.changes).changes =
        [.starred false, .folder (.named "Later"), .read .epoch] ∧
      (Restarred.start.applyUpdate 2 (.ofChanges Restarred.changes)).1 = .ok () ∧
      (Restarred.start.applyUpdate 2 (.ofChanges Restarred.changes)).2.tables =
        (Restarred.start.applySingly 2 Restarred.changes).2.tables ∧
      (Restarred.start.applyUpdate 3 (.ofChanges Restarred.changes)).1 =
        .error (.emailNotFound 3) := by
  have htakes : Restarred.start.TakesUpdates := fun _ _ => rfl
  have hne : Restarred.changes ≠ [] := by decide
  obtain ⟨-, -, hsame, -, -, hdone⟩ := applyUpdate_ofChanges htakes 2 hne
  obtain ⟨-, -, -, hmissing, -⟩ := applyUpdate_ofChanges htakes 3 hne
  exact ⟨htakes, hne, rfl, (hdone rfl (by decide)).1, hsame, hmissing.mpr ⟨rfl, rfl⟩⟩

end Database

end Mailroom.Store
