import Mathlib.Data.List.Induction
import Mathlib.Data.List.Nodup
import Mailroom.Mail.Change

/-!
# What an update holds

An update that is made of some changes has one change for each field among them, in the order in
which the fields are first mentioned, and each is the last change of its field. Different fields
have different columns, so no column is assigned twice.
-/

namespace Mailroom.Mail

-- ---------------------------------------------------------------------------
-- Columns
-- ---------------------------------------------------------------------------

def Column.kind : Column → ChangeKind
  | .folder => .folder
  | .isStarred => .starred
  | .isRead | .readAt => .read
  | .isArchived => .archived
  | .isTrashed | .trashedAt => .trashed
  | .textBody => .textBody
  | .htmlBody => .htmlBody
  | .size => .size
  | .hasAttachments => .hasAttachments
  | .snippet => .snippet

def Change.columns (c : Change) : List Column := c.assignments.map Assignment.column

theorem Change.kind_of_mem_columns {c : Change} {column : Column} (h : column ∈ c.columns) :
    column.kind = c.kind := by
  cases c <;> simp [columns, assignments, Assignment.column] at h
  all_goals rcases h with rfl | rfl <;> rfl

theorem Change.nodup_columns (c : Change) : c.columns.Nodup := by
  cases c <;> simp [columns, assignments, Assignment.column]

namespace Update

variable {changes : List Change}

theorem map_column_assignments (u : Update) :
    u.assignments.map Assignment.column = u.changes.flatMap Change.columns := by
  rw [assignments, List.map_flatMap]
  rfl

theorem nodup_columns (h : (changes.map Change.kind).Nodup) :
    (changes.flatMap Change.columns).Nodup := by
  refine List.nodup_flatMap.mpr ⟨fun c _ => c.nodup_columns, (List.pairwise_map.mp h).imp ?_⟩
  intro c d hne column hc hd
  exact hne ((Change.kind_of_mem_columns hc).symm.trans (Change.kind_of_mem_columns hd))

-- ---------------------------------------------------------------------------
-- Changes
-- ---------------------------------------------------------------------------

theorem kinds_putIn (c : Change) (changes : List Change) :
    (putIn c changes).map Change.kind =
      if c.kind ∈ changes.map Change.kind then changes.map Change.kind
      else changes.map Change.kind ++ [c.kind] := by
  induction changes with
  | nil => rfl
  | cons d rest ih =>
    rw [putIn]
    by_cases h : d.kind = c.kind
    · simp [h]
    · simp only [if_neg h, List.map_cons, ih, List.mem_cons, Ne.symm h, false_or]
      split <;> rfl

theorem nodup_kinds_putIn (c : Change) (h : (changes.map Change.kind).Nodup) :
    ((putIn c changes).map Change.kind).Nodup := by
  rw [kinds_putIn]
  split
  · exact h
  · next hm => exact h.append (List.nodup_singleton _) (by simpa using hm)

theorem mem_putIn {c d : Change} (h : (changes.map Change.kind).Nodup) :
    d ∈ putIn c changes ↔ d = c ∨ d ∈ changes ∧ d.kind ≠ c.kind := by
  induction changes with
  | nil => simp [putIn]
  | cons e rest ih =>
    obtain ⟨he, hrest⟩ := List.nodup_cons.mp h
    rw [putIn]
    by_cases hkind : e.kind = c.kind
    · have hother : d ∈ rest → d.kind ≠ c.kind := fun hd hsame =>
        he (List.mem_map.mpr ⟨d, hd, hsame.trans hkind.symm⟩)
      rw [if_pos hkind, List.mem_cons, List.mem_cons]
      grind
    · rw [if_neg hkind, List.mem_cons, ih hrest, List.mem_cons]
      grind

theorem ofChanges_concat (changes : List Change) (c : Change) :
    (ofChanges (changes ++ [c])).changes = putIn c (ofChanges changes).changes := by
  simp [ofChanges, put]

theorem kinds_ofChanges (changes : List Change) :
    (ofChanges changes).changes.map Change.kind = (changes.map Change.kind).eraseDups := by
  induction changes using List.reverseRecOn with
  | nil => rfl
  | append_singleton changes c ih =>
    rw [ofChanges_concat, kinds_putIn, ih, List.map_append, List.eraseDups_append]
    by_cases h : c.kind ∈ changes.map Change.kind <;>
      simp [List.removeAll, List.eraseDups_cons, -List.mem_map, h]

theorem nodup_kinds_ofChanges (changes : List Change) :
    ((ofChanges changes).changes.map Change.kind).Nodup := by
  induction changes using List.reverseRecOn with
  | nil => exact List.nodup_nil
  | append_singleton changes c ih =>
    rw [ofChanges_concat]
    exact nodup_kinds_putIn c ih

theorem mem_ofChanges {c : Change} : c ∈ (ofChanges changes).changes ↔
    (changes.filter fun d => d.kind = c.kind).getLast? = some c := by
  induction changes using List.reverseRecOn with
  | nil => simp [ofChanges, empty]
  | append_singleton changes d ih =>
    rw [ofChanges_concat, mem_putIn (nodup_kinds_ofChanges changes), ih, List.filter_append]
    by_cases h : d.kind = c.kind
    · simp [h, eq_comm]
    · have hne : c ≠ d := fun e => h (e ▸ rfl)
      simp [h, Ne.symm h, hne]

theorem isEmpty_ofChanges (h : changes ≠ []) : (ofChanges changes).isEmpty = false := by
  obtain ⟨front, c, rfl⟩ := (List.eq_nil_or_concat changes).resolve_left h
  have hmem : c ∈ (ofChanges (front ++ [c])).changes := mem_ofChanges.mpr (by simp)
  rw [List.concat_eq_append, isEmpty, List.isEmpty_eq_false_iff_exists_mem]
  exact ⟨c, hmem⟩

/-- The update has the last change of each field, in order of first mention. -/
structure Gathers (u : Update) (changes : List Change) : Prop where
  order : u.changes.map Change.kind = (changes.map Change.kind).eraseDups
  once : (u.changes.map Change.kind).Nodup
  last : ∀ c, c ∈ u.changes ↔ (changes.filter fun d => d.kind = c.kind).getLast? = some c
  columns : (u.assignments.map Assignment.column).Nodup

theorem gathers_ofChanges (changes : List Change) : (ofChanges changes).Gathers changes where
  order := kinds_ofChanges changes
  once := nodup_kinds_ofChanges changes
  last _ := mem_ofChanges
  columns := by
    rw [map_column_assignments]
    exact nodup_columns (nodup_kinds_ofChanges changes)

end Update

end Mailroom.Mail
