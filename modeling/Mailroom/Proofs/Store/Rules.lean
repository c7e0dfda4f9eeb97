import Mailroom.Proofs.Store.Table
import Mailroom.Store.Database

/-!
# Rules in use

Which rules are in use for mail of an identity, and in which order they come: by falling
priority, and where priorities are equal, by rising id.
-/

namespace Mailroom.Store

open Mailroom.Filter (RuleId StoredRule)
open Mailroom.Mail

-- ---------------------------------------------------------------------------
-- Stable sorting
-- ---------------------------------------------------------------------------

theorem not_pair_sublist_of_nodup {α : Type} {l : List α} {a b : α} (h : l.Nodup)
    (hab : [a, b].Sublist l) : ¬ [b, a].Sublist l := by
  induction l with
  | nil => exact absurd hab (by simp)
  | cons c l ih =>
    obtain ⟨hc, hl⟩ := List.nodup_cons.mp h
    intro hba
    cases hab with
    | cons _ hab =>
      cases hba with
      | cons _ hba => exact ih hl hab hba
      | cons_cons _ ha => exact hc (hab.subset (by simp))
    | cons_cons _ hb =>
      cases hba with
      | cons _ hba => exact hc (hba.subset (by simp))
      | cons_cons _ ha => exact hc (List.singleton_sublist.mp ha)

theorem pair_sublist_of_pairwise {α : Type} {r : α → α → Prop} {l : List α} {a b : α}
    (h : l.Pairwise r) (ha : a ∈ l) (hb : b ∈ l) (hne : a ≠ b) (hr : ¬ r b a) :
    [a, b].Sublist l := by
  induction l with
  | nil => exact absurd ha List.not_mem_nil
  | cons c l ih =>
    obtain ⟨hc, hl⟩ := List.pairwise_cons.mp h
    rcases List.mem_cons.mp ha with rfl | ha'
    · rcases List.mem_cons.mp hb with rfl | hb'
      · exact absurd rfl hne
      · exact (List.singleton_sublist.mpr hb').cons_cons _
    · rcases List.mem_cons.mp hb with rfl | hb'
      · exact absurd (hc a ha') hr
      · exact (ih hl ha' hb').cons _

theorem pairwise_mergeSort_weight {α : Type} {key : α → Int} (weight : α → Int) {l : List α}
    (h : l.Pairwise fun a b => key a < key b) :
    (l.mergeSort fun a b => decide (weight b ≤ weight a)).Pairwise fun a b =>
      weight b < weight a ∨ weight a = weight b ∧ key a < key b := by
  have htrans : ∀ a b c : α, decide (weight b ≤ weight a) = true →
      decide (weight c ≤ weight b) = true → decide (weight c ≤ weight a) = true := by
    simp only [decide_eq_true_eq]
    intro a b c hab hbc
    exact Int.le_trans hbc hab
  have htotal : ∀ a b : α, (decide (weight b ≤ weight a) || decide (weight a ≤ weight b)) = true := by
    simp only [Bool.or_eq_true, decide_eq_true_eq]
    intro a b
    exact Int.le_total _ _
  have hsorted := List.pairwise_mergeSort htrans htotal l
  have hperm := List.mergeSort_perm l fun a b => decide (weight b ≤ weight a)
  have hnodup : l.Nodup := by
    refine List.Pairwise.imp ?_ h
    rintro a b hab rfl
    exact Int.lt_irrefl _ hab
  rw [List.pairwise_iff_forall_sublist] at hsorted ⊢
  intro a b hab
  have hle : weight b ≤ weight a := by simpa using hsorted hab
  rcases Int.lt_or_eq_of_le hle with hlt | heq
  · exact .inl hlt
  · refine .inr ⟨heq.symm, Int.not_le.mp fun hkey => ?_⟩
    -- were `b` before `a`, the sort would have kept it there
    have ha : a ∈ l := hperm.mem_iff.mp (hab.subset (by simp))
    have hb : b ∈ l := hperm.mem_iff.mp (hab.subset (by simp))
    have hne : b ≠ a := by
      rintro rfl
      have := hab.nodup (hperm.nodup_iff.mpr hnodup)
      simp at this
    have hbefore : [b, a].Sublist l :=
      pair_sublist_of_pairwise h hb ha hne (Int.not_lt.mpr hkey)
    have hkept := List.pair_sublist_mergeSort htrans htotal (by simp [heq]) hbefore
    exact not_pair_sublist_of_nodup (hperm.nodup_iff.mpr hnodup) hab hkept

-- ---------------------------------------------------------------------------
-- Rules for an identity
-- ---------------------------------------------------------------------------

/-- In use for mail of an identity: switched on, of its organization, and for all of it or for
this identity. -/
structure RuleRow.InUse (row : RuleRow) (org : OrgId) (identity : IdentityId) : Prop where
  active : row.active = true
  org : row.org = org
  scope : row.identity = none ∨ row.identity = some identity

theorem RuleRow.isVisible_iff {row : RuleRow} {org : OrgId} {identity : IdentityId} :
    row.isVisible org identity = true ↔ row.InUse org identity := by
  unfold isVisible
  simp only [Bool.and_eq_true, Bool.or_eq_true, beq_iff_eq, Option.isNone_iff_eq_none]
  constructor
  · rintro ⟨⟨horg, hactive⟩, hscope⟩
    exact ⟨hactive, horg, hscope⟩
  · rintro ⟨hactive, horg, hscope⟩
    exact ⟨⟨horg, hactive⟩, hscope⟩

theorem RuleRow.read?_eq_some {id : RuleId} {row : RuleRow} {r : StoredRule}
    (h : row.read? id = some r) : r.id = id ∧ r.rule.priority = row.priority := by
  simp only [read?, Option.bind_eq_bind, Option.bind_eq_some_iff, Option.pure_def,
    Option.some.injEq] at h
  obtain ⟨-, -, -, -, -, -, rfl⟩ := h
  exact ⟨rfl, rfl⟩

/-- Before another rule: of higher priority, or of the same priority and older. -/
def Precedes (a b : StoredRule) : Prop :=
  b.rule.priority < a.rule.priority ∨ a.rule.priority = b.rule.priority ∧ a.id < b.id

instance (a b : StoredRule) : Decidable (Precedes a b) := inferInstanceAs (Decidable (_ ∨ _))

theorem Precedes.asymm {a b : StoredRule} (h : Precedes a b) : ¬ Precedes b a := by
  rintro (hback | ⟨hsame, hback⟩)
  · rcases h with hlt | ⟨heq, -⟩
    · exact Int.lt_asymm hlt hback
    · exact Int.lt_irrefl _ (heq ▸ hback)
  · rcases h with hlt | ⟨-, hid⟩
    · exact Int.lt_irrefl _ (hsame ▸ hlt)
    · exact Int.lt_asymm hid hback

theorem Database.rulesFor_spec {db : Database} (h : db.closed = false) (org : OrgId)
    (identity : IdentityId) : ∃ rules, db.rulesFor org identity = .ok rules ∧
      (∀ r, r ∈ rules ↔ ∃ row, db.tables.rules.get? r.id = some row ∧ row.InUse org identity ∧
        row.read? r.id = some r) ∧
      rules.Pairwise Precedes := by
  refine ⟨_, by simp only [rulesFor, select, h]; rfl, ?_, ?_⟩
  · intro r
    simp only [List.mem_filterMap, List.mem_mergeSort, List.mem_filter, Table.mem_entries,
      RuleRow.isVisible_iff]
    constructor
    · rintro ⟨e, ⟨hget, huse⟩, hread⟩
      have hid := (RuleRow.read?_eq_some hread).1
      exact ⟨e.2, hid ▸ hget, huse, hid ▸ hread⟩
    · rintro ⟨row, hget, huse, hread⟩
      exact ⟨(r.id, row), ⟨hget, huse⟩, hread⟩
  · have hvisible := db.tables.rules.pairwise_entries.filter fun e => e.2.isVisible org identity
    refine (pairwise_mergeSort_weight (fun e => e.2.priority) hvisible).filterMap _ ?_
    rintro a b hab r hr r' hr'
    obtain ⟨hid, hpriority⟩ := RuleRow.read?_eq_some hr
    obtain ⟨hid', hpriority'⟩ := RuleRow.read?_eq_some hr'
    simpa [Precedes, hid, hid', hpriority, hpriority'] using hab

-- ---------------------------------------------------------------------------
-- The record of matches
-- ---------------------------------------------------------------------------

/-- A rule without the record of its matches. -/
def uncounted (r : StoredRule) : StoredRule := { r with matchCount := 0, lastMatched := none }

def RuleRow.uncounted (row : RuleRow) : RuleRow := { row with matchCount := 0, lastMatched := none }

theorem RuleRow.read?_with_matches (id : RuleId) (row : RuleRow) (count : Int)
    (last : Option String) : ({ row with matchCount := count, lastMatched := last }).read? id =
      (row.read? id).map fun r => { r with matchCount := count, lastMatched := readTime last } := by
  unfold read?
  cases Filter.Combinator.ofName? row.logic with
  | none => rfl
  | some combinator =>
    cases (Json.read Filter.readConditions row.conditions).toOption with
    | none => rfl
    | some conditions =>
      cases (Json.read Filter.readActions row.actions).toOption <;> rfl

theorem RuleRow.read?_uncounted (id : RuleId) (row : RuleRow) :
    row.uncounted.read? id = (row.read? id).map Store.uncounted :=
  row.read?_with_matches id 0 none

theorem Table.map_number {α β : Type} (f : α → β) (start : Int) (rows : List α) :
    (number start rows).map (fun e => (e.1, f e.2)) = number start (rows.map f) := by
  induction rows generalizing start with
  | nil => rfl
  | cons row rows ih => simp [number, ih]

def rulesOfRows (rows : List RuleRow) (org : OrgId) (identity : IdentityId) : List StoredRule :=
  let visible := (Table.number 1 rows).filter fun e => e.2.isVisible org identity
  let ordered := visible.mergeSort fun a b => decide (b.2.priority ≤ a.2.priority)
  ordered.filterMap fun e => e.2.read? e.1

theorem Database.rulesFor_eq {db : Database} (h : db.closed = false) (org : OrgId)
    (identity : IdentityId) :
    db.rulesFor org identity = .ok (rulesOfRows db.tables.rules.rows org identity) := by
  simp only [rulesFor, select, h]
  rfl

theorem rulesOfRows_uncounted (rows : List RuleRow) (org : OrgId) (identity : IdentityId) :
    rulesOfRows (rows.map RuleRow.uncounted) org identity =
      (rulesOfRows rows org identity).map uncounted := by
  let plain (e : Int × RuleRow) : Int × RuleRow := (e.1, e.2.uncounted)
  have hvisible : (Table.number 1 (rows.map RuleRow.uncounted)).filter
      (fun e => e.2.isVisible org identity) =
        ((Table.number 1 rows).filter fun e => e.2.isVisible org identity).map plain := by
    rw [← Table.map_number, List.filter_map]
    rfl
  have hordered (l : List (Int × RuleRow)) :
      (l.map plain).mergeSort (fun a b => decide (b.2.priority ≤ a.2.priority)) =
        (l.mergeSort fun a b => decide (b.2.priority ≤ a.2.priority)).map plain := by
    refine (List.map_mergeSort (f := plain) ?_).symm
    exact fun _ _ _ _ => rfl
  simp only [rulesOfRows, hvisible, hordered]
  rw [List.filterMap_map, List.map_filterMap]
  congr 1
  funext e
  exact RuleRow.read?_uncounted e.1 e.2

end Mailroom.Store
