import Mailroom.Store.Row

/-!
# Columns of mail

What decoding fills in and what rules decide are different columns. Assignments to different
columns can change places, so that a row only depends on the order among the assignments of
each kind.
-/

namespace Mailroom.Mail

/-- The columns that hold what a message says. Rules decide the others. -/
def Column.isContent : Column → Bool
  | .textBody | .htmlBody | .size | .hasAttachments | .snippet => true
  | .folder | .isStarred | .isRead | .readAt | .isArchived | .isTrashed | .trashedAt => false

def Assignment.isContent (a : Assignment) : Bool := a.column.isContent

end Mailroom.Mail

namespace Mailroom.Store.EmailRow

open Mailroom.Mail

theorem assign_comm (row : EmailRow) {a b : Assignment} (h : a.column ≠ b.column) :
    (row.assign a).assign b = (row.assign b).assign a := by
  cases a <;> cases b <;> simp_all [assign, Assignment.column]

theorem assign_foldl (row : EmailRow) {a : Assignment} {others : List Assignment}
    (h : ∀ b ∈ others, a.column ≠ b.column) :
    others.foldl assign (row.assign a) = (others.foldl assign row).assign a := by
  induction others generalizing row with
  | nil => rfl
  | cons b others ih =>
    obtain ⟨hb, hothers⟩ := List.forall_mem_cons.mp h
    rw [List.foldl_cons, List.foldl_cons, assign_comm row hb, ih _ hothers]

theorem foldl_assign_split (row : EmailRow) (assignments : List Assignment) :
    assignments.foldl assign row =
      (assignments.filter (!·.isContent)).foldl assign
        ((assignments.filter Assignment.isContent).foldl assign row) := by
  induction assignments generalizing row with
  | nil => rfl
  | cons a rest ih =>
    rw [List.foldl_cons, ih]
    cases ha : a.isContent with
    | true => simp [ha]
    | false =>
      rw [List.filter_cons_of_neg (by simp [ha]), List.filter_cons_of_pos (by simp [ha]),
        List.foldl_cons, assign_foldl row]
      intro b hb hcolumn
      have hcontent : a.isContent = b.isContent := congrArg Column.isContent hcolumn
      simp [← hcontent, ha] at hb

end Mailroom.Store.EmailRow
