import Mailroom.Proofs.Object.Filing
import Mailroom.Proofs.Pipeline.Evaluation
import Mailroom.Proofs.Store.Columns

/-!
# Effects of steps

What a single step of a task does, as data. When nothing fails, an effect assigns columns of
one email, adds a row for an attachment, counts a match of a rule or writes an object, and
leaves all else as it was.
-/

namespace Mailroom.Pipeline

open Mailroom.Filter (RuleId)
open Mailroom.Mail
open Mailroom.Store
open Mailroom.Time (Instant)

/-- Nothing fails: the database is open and neither it nor the object store has a plan of
failures. -/
structure State.Reliable (s : State) : Prop where
  isOpen : s.database.closed = false
  statements : ∀ n write, s.database.refuses n write = false
  objects : ∀ n, s.objects.refuses n = false

inductive Effect
  | look
  | update (email : EmailId) (update : Update)
  | decide (email : EmailId) (statement : Evaluation.Statement)
  | attach (row : NewAttachment)
  | put (l : Location) (bytes : Object.Bytes)

namespace Effect

def onTables (tables : Tables) : Effect → Tables
  | .look => tables
  | .update email u => { tables with
      emails := tables.emails.modify email (u.assignments.foldl EmailRow.assign) }
  | .decide email statement => statement.effect email tables
  | .attach row => { tables with attachments := (tables.attachments.insert row).2 }
  | .put .. => tables

def write? : Effect → Option Write
  | .look => none
  | .update _ u => some (.updateEmail (u.assignments.map Assignment.column))
  | .decide _ statement => some statement.write
  | .attach _ => some .insertAttachment
  | .put .. => none

def act (s : State) (effect : Effect) : State where
  database := match effect.write? with
    | none => s.database
    | some write => s.database.issue write effect.onTables
  objects := match effect with
    | .put l bytes => (s.objects.put l bytes).2
    | _ => s.objects
  queue := s.queue

def assignments (email : EmailId) : Effect → List Assignment
  | .update e u => if e = email then u.assignments else []
  | .decide e (.update c) => if e = email then c.assignments else []
  | _ => []

def added : Effect → List NewAttachment
  | .attach row => [row]
  | _ => []

def matched (rule : RuleId) : Effect → List Instant
  | .decide _ (.recordMatch r time) => if r = rule then [time] else []
  | _ => []

variable {s : State}

theorem tables_act (h : s.Reliable) (effect : Effect) :
    (effect.act s).database.tables = effect.onTables s.database.tables := by
  cases effect <;> simp [act, write?, onTables, Database.issue, h.statements]

theorem reliable_act (h : s.Reliable) (effect : Effect) : (effect.act s).Reliable := by
  refine ⟨?_, ?_, ?_⟩
  · cases effect <;> exact h.isOpen
  · cases effect <;> exact h.statements
  · cases effect with
    | put l bytes =>
      show ∀ n, (s.objects.put l bytes).2.refuses n = false
      rw [Object.Store.refuses_put]
      exact h.objects
    | _ => exact h.objects

theorem emails_act (h : s.Reliable) (effect : Effect) (email : EmailId) :
    (effect.act s).database.tables.emails.get? email =
      (s.database.tables.emails.get? email).map
        ((effect.assignments email).foldl EmailRow.assign) := by
  rw [tables_act h]
  generalize s.database.tables = tables
  have hnone : tables.emails.get? email =
      (tables.emails.get? email).map (([] : List Assignment).foldl EmailRow.assign) :=
    Option.map_id'.symm
  have hmodify (e : EmailId) (assigned : List Assignment) :
      (tables.emails.modify e (assigned.foldl EmailRow.assign)).get? email =
        (tables.emails.get? email).map
          ((if e = email then assigned else []).foldl EmailRow.assign) := by
    rw [Table.get?_modify]
    by_cases he : email = e
    · simp [he]
    · rw [if_neg he, if_neg (Ne.symm he)]
      exact hnone
  cases effect with
  | look => exact hnone
  | put => exact hnone
  | attach => exact hnone
  | update e u => exact hmodify e u.assignments
  | decide e statement =>
    cases statement with
    | recordMatch => exact hnone
    | update c => exact hmodify e c.assignments

theorem attachments_act (h : s.Reliable) (effect : Effect) :
    (effect.act s).database.tables.attachments.rows =
      s.database.tables.attachments.rows ++ effect.added := by
  rw [tables_act h]
  cases effect with
  | attach => rfl
  | decide e statement => cases statement <;> exact (List.append_nil _).symm
  | _ => exact (List.append_nil _).symm

theorem rules_act (h : s.Reliable) (effect : Effect) (rule : RuleId) :
    (effect.act s).database.tables.rules.get? rule =
      (s.database.tables.rules.get? rule).map
        ((effect.matched rule).foldl fun row time => row.counted time) := by
  rw [tables_act h]
  have hnone : s.database.tables.rules.get? rule = (s.database.tables.rules.get? rule).map
      (([] : List Instant).foldl fun row time => row.counted time) := Option.map_id'.symm
  cases effect with
  | decide e statement =>
    cases statement with
    | update => exact hnone
    | recordMatch r time =>
      simp only [onTables, matched, Evaluation.Statement.effect, Table.get?_modify]
      by_cases hr : rule = r
      · simp [hr]
      · rw [if_neg hr, if_neg (Ne.symm hr)]
        exact hnone
  | _ => exact hnone

theorem uncounted_act (h : s.Reliable) (effect : Effect) :
    (effect.act s).database.tables.rules.rows.map RuleRow.uncounted =
      s.database.tables.rules.rows.map RuleRow.uncounted := by
  rw [tables_act h]
  cases effect with
  | decide e statement =>
    cases statement with
    | update => rfl
    | recordMatch r time => exact Table.map_rows_modify _ _ fun _ => rfl
  | _ => rfl

theorem frame_act (h : s.Reliable) (effect : Effect) :
    (effect.act s).database.tables.domains = s.database.tables.domains ∧
      (effect.act s).database.tables.identities = s.database.tables.identities := by
  rw [tables_act h]
  cases effect with
  | decide e statement => cases statement <;> exact ⟨rfl, rfl⟩
  | _ => exact ⟨rfl, rfl⟩

-- ---------------------------------------------------------------------------
-- Effects one after the other
-- ---------------------------------------------------------------------------

def actAll (s : State) (effects : List Effect) : State := effects.foldl act s

theorem actAll_append (s : State) (a b : List Effect) :
    actAll s (a ++ b) = actAll (actAll s a) b := List.foldl_append

theorem reliable_actAll (h : s.Reliable) (effects : List Effect) : (actAll s effects).Reliable := by
  induction effects generalizing s with
  | nil => exact h
  | cons effect rest ih => exact ih (reliable_act h effect)

theorem emails_actAll (h : s.Reliable) (effects : List Effect) (email : EmailId) :
    (actAll s effects).database.tables.emails.get? email =
      (s.database.tables.emails.get? email).map
        ((effects.flatMap (assignments email)).foldl EmailRow.assign) := by
  induction effects generalizing s with
  | nil => exact Option.map_id'.symm
  | cons effect rest ih =>
    refine (ih (reliable_act h effect)).trans ?_
    rw [emails_act h, Option.map_map, List.flatMap_cons]
    congr 1
    funext row
    exact List.foldl_append.symm

theorem attachments_actAll (h : s.Reliable) (effects : List Effect) :
    (actAll s effects).database.tables.attachments.rows =
      s.database.tables.attachments.rows ++ effects.flatMap added := by
  induction effects generalizing s with
  | nil => exact (List.append_nil _).symm
  | cons effect rest ih =>
    refine (ih (reliable_act h effect)).trans ?_
    rw [attachments_act h, List.flatMap_cons, List.append_assoc]

theorem rules_actAll (h : s.Reliable) (effects : List Effect) (rule : RuleId) :
    (actAll s effects).database.tables.rules.get? rule =
      (s.database.tables.rules.get? rule).map
        ((effects.flatMap (matched rule)).foldl fun row time => row.counted time) := by
  induction effects generalizing s with
  | nil => exact Option.map_id'.symm
  | cons effect rest ih =>
    refine (ih (reliable_act h effect)).trans ?_
    rw [rules_act h, Option.map_map, List.flatMap_cons]
    congr 1
    funext row
    exact List.foldl_append.symm

theorem frame_actAll (h : s.Reliable) (effects : List Effect) :
    (actAll s effects).database.tables.domains = s.database.tables.domains ∧
      (actAll s effects).database.tables.identities = s.database.tables.identities := by
  induction effects generalizing s with
  | nil => exact ⟨rfl, rfl⟩
  | cons effect rest ih =>
    obtain ⟨hdomains, hidentities⟩ := ih (reliable_act h effect)
    obtain ⟨hd, hi⟩ := frame_act h effect
    exact ⟨hdomains.trans hd, hidentities.trans hi⟩

end Effect

end Mailroom.Pipeline
