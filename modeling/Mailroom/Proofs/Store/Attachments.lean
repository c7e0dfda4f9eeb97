import Mailroom.Store.Database

/-!
# Statements and rows of attachments

A statement fails and leaves the tables as they were, or makes of them what it says. Only one of
them touches the attachments, and it adds a row at their end.
-/

namespace Mailroom.Store.Database

open Mailroom.Filter (RuleId)
open Mailroom.Mail
open Mailroom.Time (Instant)

variable {α : Type}

theorem tables_change (db : Database) (statement : Tables → Except Error (α × Tables)) :
    ((∃ e, (db.change statement).1 = .error e) ∧ (db.change statement).2.tables = db.tables) ∨
      ∃ a, (db.change statement).1 = .ok a ∧
        statement db.tables = .ok (a, (db.change statement).2.tables) := by
  unfold change
  cases db.closed with
  | true => exact .inl ⟨⟨_, rfl⟩, rfl⟩
  | false =>
    cases hs : statement db.tables with
    | error e => exact .inl ⟨⟨e, rfl⟩, rfl⟩
    | ok answer => exact .inr ⟨answer.1, rfl, rfl⟩

theorem tables_write (db : Database) (kind : Write)
    (statement : Tables → Except Error (α × Tables)) :
    ((∃ e, (db.write kind statement).1 = .error e) ∧
        (db.write kind statement).2.tables = db.tables) ∨
      ∃ a, (db.write kind statement).1 = .ok a ∧
        statement db.tables = .ok (a, (db.write kind statement).2.tables) := by
  unfold write
  by_cases hclosed : db.closed = true
  · rw [if_pos hclosed]
    exact .inl ⟨⟨_, rfl⟩, rfl⟩
  · rw [if_neg hclosed]
    by_cases hrefused : db.refuses db.writes kind = true
    · rw [if_pos hrefused]
      exact .inl ⟨⟨_, rfl⟩, rfl⟩
    · rw [if_neg hrefused]
      exact tables_change { db with writes := db.writes + 1 } statement

theorem tables_addAttachment (db : Database) (row : NewAttachment) :
    (db.addAttachment row).2.tables =
      if (db.addAttachment row).1.isOk then
        { db.tables with attachments := (db.tables.attachments.insert row).2 }
      else db.tables := by
  rcases db.tables_write .insertAttachment _ with ⟨⟨e, hanswer⟩, hsame⟩ | ⟨a, hanswer, hdone⟩
  · rw [addAttachment, hanswer]
    exact hsame
  · rw [addAttachment, hanswer]
    split at hdone
    · cases hdone
    · exact (congrArg Prod.snd (Except.ok.inj hdone)).symm

theorem rows_addAttachment (db : Database) (row : NewAttachment) :
    (db.addAttachment row).2.tables.attachments.rows = db.tables.attachments.rows ∨
      (db.addAttachment row).2.tables.attachments.rows = db.tables.attachments.rows ++ [row] := by
  rw [tables_addAttachment]
  split
  · exact .inr rfl
  · exact .inl rfl

theorem attachments_insertEmail (db : Database) (email : NewEmail) :
    (db.insertEmail email).2.tables.attachments = db.tables.attachments := by
  rcases db.tables_write .insertEmail _ with ⟨-, hsame⟩ | ⟨a, -, hdone⟩
  · exact congrArg (·.attachments) hsame
  · split at hdone
    · exact (congrArg (·.2.attachments) (Except.ok.inj hdone)).symm
    · exact (congrArg (·.2.attachments) (Except.ok.inj hdone)).symm

theorem tables_applyUpdate (db : Database) (id : EmailId) {u : Update} (hu : u.isEmpty = false) :
    ((∃ e, (db.applyUpdate id u).1 = .error e) ∧ (db.applyUpdate id u).2.tables = db.tables) ∨
      (db.applyUpdate id u).1 = .ok () ∧ (db.tables.emails.get? id).isSome = true ∧
        (db.applyUpdate id u).2.tables = { db.tables with
          emails := db.tables.emails.modify id fun row =>
            u.assignments.foldl EmailRow.assign row } := by
  unfold applyUpdate
  rw [hu, if_neg Bool.false_ne_true]
  simp only
  -- Of whichever kind the statement is, it changes emails.
  split
  · next hstored =>
    rcases db.tables_write (.updateEmail _) _ with hfailed | ⟨a, hanswer, hdone⟩
    · exact .inl hfailed
    · obtain ⟨row, hrow⟩ := Option.isSome_iff_exists.mp hstored
      simp only [hrow, Except.ok.injEq, Prod.mk.injEq] at hdone
      exact .inr ⟨hanswer, hstored, hdone.2.symm⟩
  · next hmissing =>
    rcases db.tables_change _ with hfailed | ⟨a, -, hdone⟩
    · exact .inl hfailed
    · rw [Option.not_isSome_iff_eq_none.mp hmissing] at hdone
      cases hdone

theorem attachments_applyUpdate (db : Database) (id : EmailId) (u : Update) :
    (db.applyUpdate id u).2.tables.attachments = db.tables.attachments := by
  cases hu : u.isEmpty with
  | true => rw [applyUpdate, if_pos hu]
  | false =>
    rcases db.tables_applyUpdate id hu with ⟨-, hsame⟩ | ⟨-, -, hdone⟩
    · exact congrArg (·.attachments) hsame
    · exact congrArg (·.attachments) hdone

theorem attachments_recordMatch (db : Database) (id : RuleId) (time : Instant) :
    (db.recordMatch id time).2.tables.attachments = db.tables.attachments := by
  unfold recordMatch
  simp only
  split
  · rcases db.tables_write .recordMatch _ with ⟨-, hsame⟩ | ⟨a, -, hdone⟩
    · exact congrArg (·.attachments) hsame
    · exact (congrArg (·.2.attachments) (Except.ok.inj hdone)).symm
  · rcases db.tables_change _ with ⟨-, hsame⟩ | ⟨a, -, hdone⟩
    · exact congrArg (·.attachments) hsame
    · exact (congrArg (·.2.attachments) (Except.ok.inj hdone)).symm

end Mailroom.Store.Database
