import Mathlib.Data.List.Basic
import Mailroom.Proofs.Filter.Unknown
import Mailroom.Proofs.Sieve.Layout

/-!
# Scripts without conditions of an unknown kind

Conditions on an unknown field have no test, and neither have those with an unknown comparison,
except on the body: bodies are always searched. So the conditions of an unknown kind can be taken
out of rules without a change to the script exactly if no active rule has one on the body
(`generate_withoutUnknown`). A test more makes a block longer, which is why one on the body always
shows.
-/

namespace Mailroom.Filter

/-- The rule without its conditions of an unknown kind. -/
def Rule.withoutUnknown (r : Rule) : Rule :=
  { r with conditions := r.conditions.filter fun c => ¬ c.Unknown }

end Mailroom.Filter

namespace Mailroom.Sieve

open Mailroom.Filter (Combinator Condition Rule)

-- ---------------------------------------------------------------------------
-- Tests of conditions
-- ---------------------------------------------------------------------------

def SearchesBody (c : Condition) : Prop := c.field = .body ∧ c.comparison = .other

theorem Test.ofCondition?_unknown {c : Condition} (h : c.Unknown) :
    Test.ofCondition? c = none ↔ ¬ SearchesBody c := by
  obtain ⟨field, comparison, literal⟩ := c
  rcases h with h | h
  · obtain rfl : field = .other := h
    simp [Test.ofCondition?, SearchesBody]
  · obtain rfl : comparison = .other := h
    cases field <;> simp [Test.ofCondition?, Test.ofComparison?, SearchesBody]

def testsOf (r : Rule) : List Test := r.conditions.filterMap Test.ofCondition?

theorem testsOf_withoutUnknown_sublist (r : Rule) : (testsOf r.withoutUnknown).Sublist (testsOf r) :=
  List.filter_sublist.filterMap _

theorem testsOf_withoutUnknown_eq_iff {r : Rule} :
    testsOf r.withoutUnknown = testsOf r ↔ ∀ c ∈ r.conditions, ¬ SearchesBody c := by
  unfold testsOf Rule.withoutUnknown
  simp only
  induction r.conditions with
  | nil => simp
  | cons c conditions ih =>
    rw [List.forall_mem_cons, ← ih]
    by_cases hu : c.Unknown
    · by_cases hb : SearchesBody c
      · -- the test on the body is one more than all that is kept
        have hsub : ((conditions.filter fun c => ¬ c.Unknown).filterMap Test.ofCondition?).Sublist
            (conditions.filterMap Test.ofCondition?) := List.filter_sublist.filterMap _
        obtain ⟨test, htest⟩ := Option.ne_none_iff_exists'.mp
          fun h => (Test.ofCondition?_unknown hu).mp h hb
        have hle := hsub.length_le
        simp only [hu, hb, List.filterMap_cons_some htest, not_true_eq_false, decide_false,
          Bool.false_eq_true, not_false_eq_true, List.filter_cons_of_neg, false_and, iff_false]
        intro heq
        rw [heq] at hle
        exact absurd hle (by simp)
      · have hnone := (Test.ofCondition?_unknown hu).mpr hb
        simp [hu, hb, List.filterMap_cons_none hnone]
    · have hb : ¬ SearchesBody c := fun h => hu (.inr h.2)
      simp only [hu, hb, not_false_eq_true, decide_true, List.filter_cons_of_pos, true_and]
      cases h : Test.ofCondition? c <;> simp [h]

-- ---------------------------------------------------------------------------
-- Tests take room
-- ---------------------------------------------------------------------------

def room (gap : Nat) : List (List Char) → Nat
  | [] => 0
  | piece :: pieces => piece.length + gap + room gap pieces

theorem length_joinWith (sep : List Char) (piece : List Char) (pieces : List (List Char)) :
    (Text.joinWith sep (piece :: pieces)).length + sep.length =
      room sep.length (piece :: pieces) := by
  induction pieces generalizing piece with
  | nil => simp [Text.joinWith, room]
  | cons next pieces ih =>
    rw [room, ← ih next]
    simp only [Text.joinWith, List.length_append]
    omega

theorem room_le {gap : Nat} {kept pieces : List (List Char)} (h : kept.Sublist pieces) :
    room gap kept ≤ room gap pieces := by
  induction h with
  | slnil => exact Nat.le_refl _
  | cons piece _ ih => exact Nat.le_trans ih (by simp [room])
  | cons_cons piece _ ih => simpa [room] using ih

theorem room_lt {gap : Nat} {kept pieces : List (List Char)} (h : kept.Sublist pieces)
    (hgap : 0 < gap) (hlength : kept.length < pieces.length) : room gap kept < room gap pieces := by
  induction h with
  | slnil => exact absurd hlength (Nat.lt_irrefl 0)
  | cons piece h _ =>
    have hle : room gap _ ≤ room gap _ := room_le h
    simp only [room]
    omega
  | cons_cons piece _ ih => simpa [room] using ih (Nat.lt_of_succ_lt_succ hlength)

theorem length_renderTests (combinator : Combinator) {tests : List Test} (h : tests ≠ []) :
    (Block.renderTests combinator tests).length + 2 =
      room 2 (tests.map Test.render) + if tests.length = 1 then 0 else 8 := by
  have hname : combinator.sieveTest.toList.length = 5 := by cases combinator <;> rfl
  match tests with
  | [test] => simp [Block.renderTests, room]
  | first :: second :: rest =>
    have hjoin := length_joinWith ", ".toList first.render ((second :: rest).map Test.render)
    have hopen : " (".toList.length = 2 := rfl
    have hclose : ")".toList.length = 1 := rfl
    have hsep : ", ".toList.length = 2 := rfl
    rw [← List.map_cons, hsep] at hjoin
    simp only [Block.renderTests, List.length_append, hname, hopen, hclose]
    rw [if_neg (by simp)]
    omega

theorem length_renderTests_lt (combinator : Combinator) {kept tests : List Test}
    (h : kept.Sublist tests) (hne : kept ≠ tests) (hkept : kept ≠ []) :
    (Block.renderTests combinator kept).length < (Block.renderTests combinator tests).length := by
  have htests : tests ≠ [] := fun e => hkept (List.sublist_nil.mp (e ▸ h))
  have hk := length_renderTests combinator hkept
  have ht := length_renderTests combinator htests
  -- a rule with one test has none left once it loses one
  have hlength : kept.length < tests.length :=
    Nat.lt_of_le_of_ne h.length_le fun e => hne (h.eq_of_length e)
  have hroom : room 2 (kept.map Test.render) < room 2 (tests.map Test.render) :=
    room_lt (h.map Test.render) (by decide) (by simpa using hlength)
  have hpos := List.length_pos_iff.mpr hkept
  rw [if_neg (by omega : ¬ tests.length = 1)] at ht
  split at hk <;> omega

theorem Block.render_ne_nil (b : Block) : b.render ≠ [] := by
  rw [render_eq, lines, List.cons_append, List.flatMap_cons]
  simp

theorem length_lt_around {kept tests : List Char} (front back more rest : List Char)
    (h : kept.length < tests.length) :
    (front ++ kept ++ back ++ more ++ rest).length <
      (front ++ tests ++ back ++ more ++ rest).length := by
  simp only [List.length_append]
  omega

theorem Block.length_render_lt {combinator : Combinator} {kept tests : List Test} (name : List Char)
    (commands : List Command) (h : (Block.renderTests combinator kept).length <
      (Block.renderTests combinator tests).length) :
    (Block.render ⟨name, combinator, kept, commands⟩).length <
      (Block.render ⟨name, combinator, tests, commands⟩).length := by
  unfold render
  exact length_lt_around _ _ _ _ h

-- ---------------------------------------------------------------------------
-- Scripts of rules
-- ---------------------------------------------------------------------------

def writing (r : Rule) : List Char := ((Block.ofRule? r).map Block.render).getD []

theorem generate_eq (rules : List Rule) :
    generate rules = String.ofList (heading ++ rules.flatMap writing) := by
  unfold generate renderBlocks
  congr 2
  induction rules with
  | nil => rfl
  | cons r rules ih =>
    rw [List.flatMap_cons, ← ih]
    cases h : Block.ofRule? r <;> simp [writing, h]

theorem writing_of_inactive {r : Rule} (h : r.active = false) : writing r = [] := by
  simp [writing, Block.ofRule?, h]

theorem writing_of_active {r : Rule} (h : r.active = true) : writing r =
    if testsOf r = [] then []
    else Block.render
      ⟨r.name.toList, r.combinator, testsOf r, r.actions.filterMap Command.ofAction?⟩ := by
  by_cases ht : testsOf r = []
  · simp [writing, Block.ofRule?, h, ht, show r.conditions.filterMap Test.ofCondition? = [] from ht]
  · have hne : (r.conditions.filterMap Test.ofCondition?).isEmpty = false :=
      List.isEmpty_eq_false_iff.mpr ht
    simp only [writing, Block.ofRule?, h, hne, ht, if_false]
    rfl

def Lingers (r : Rule) : Prop := r.active = true ∧ ∃ c ∈ r.conditions, SearchesBody c

theorem writing_withoutUnknown_of_not_lingers {r : Rule} (h : ¬ Lingers r) :
    writing r.withoutUnknown = writing r := by
  cases hactive : r.active with
  | false =>
    rw [writing_of_inactive hactive, writing_of_inactive (r := r.withoutUnknown) hactive]
  | true =>
    have htests : testsOf r.withoutUnknown = testsOf r :=
      testsOf_withoutUnknown_eq_iff.mpr fun c hc hb => h ⟨hactive, c, hc, hb⟩
    rw [writing_of_active hactive, writing_of_active (r := r.withoutUnknown) hactive, htests]
    rfl

theorem length_writing_lt_of_lingers {r : Rule} (h : Lingers r) :
    (writing r.withoutUnknown).length < (writing r).length := by
  obtain ⟨hactive, c, hc, hb⟩ := h
  have hsub := testsOf_withoutUnknown_sublist r
  have hne : testsOf r.withoutUnknown ≠ testsOf r := fun e =>
    testsOf_withoutUnknown_eq_iff.mp e c hc hb
  have hsome : testsOf r ≠ [] := fun e => hne (by rw [e] at hsub ⊢; exact List.sublist_nil.mp hsub)
  rw [writing_of_active hactive, writing_of_active (r := r.withoutUnknown) hactive, if_neg hsome]
  by_cases hkept : testsOf r.withoutUnknown = []
  · rw [if_pos hkept]
    exact List.length_pos_iff.mpr (Block.render_ne_nil _)
  · rw [if_neg hkept]
    exact Block.length_render_lt _ _ (length_renderTests_lt r.combinator hsub hne hkept)

theorem length_writing_withoutUnknown_le (r : Rule) :
    (writing r.withoutUnknown).length ≤ (writing r).length := by
  by_cases h : Lingers r
  · exact Nat.le_of_lt (length_writing_lt_of_lingers h)
  · exact Nat.le_of_eq (congrArg List.length (writing_withoutUnknown_of_not_lingers h))

theorem length_writings_le (rules : List Rule) :
    ((rules.map Rule.withoutUnknown).flatMap writing).length ≤ (rules.flatMap writing).length := by
  induction rules with
  | nil => exact Nat.le_refl _
  | cons r rules ih =>
    simp only [List.map_cons, List.flatMap_cons, List.length_append]
    exact Nat.add_le_add (length_writing_withoutUnknown_le r) ih

theorem writings_withoutUnknown_eq_iff {rules : List Rule} :
    (rules.map Rule.withoutUnknown).flatMap writing = rules.flatMap writing ↔
      ∀ r ∈ rules, ¬ Lingers r := by
  induction rules with
  | nil => simp
  | cons r rules ih =>
    rw [List.forall_mem_cons, ← ih, List.map_cons, List.flatMap_cons, List.flatMap_cons]
    by_cases h : Lingers r
    · have hlt := length_writing_lt_of_lingers h
      have hle := length_writings_le rules
      refine iff_of_false (fun e => ?_) (fun hr => hr.1 h)
      have := congrArg List.length e
      simp only [List.length_append] at this
      omega
    · rw [writing_withoutUnknown_of_not_lingers h]
      simp [h]

theorem Block.ofRule?_eq_none_iff {r : Rule} :
    Block.ofRule? r = none ↔ (r.active = true → testsOf r = []) := by
  simp [Block.ofRule?, testsOf]

theorem testsOf_eq_nil_iff_of_unknown {r : Rule} (h : ∀ c ∈ r.conditions, c.Unknown) :
    testsOf r = [] ↔ ∀ c ∈ r.conditions, ¬ SearchesBody c := by
  rw [testsOf, List.filterMap_eq_nil_iff]
  exact forall₂_congr fun c hc => Test.ofCondition?_unknown (h c hc)

/-- Conditions of an unknown kind leave no trace in the script exactly if none of them searches a
body in an active rule. A rule that has no other conditions becomes a block only if one does. -/
theorem generate_withoutUnknown (rules : List Rule) :
    (generate (rules.map Rule.withoutUnknown) = generate rules ↔
      ∀ r ∈ rules, r.active = true → ∀ c ∈ r.conditions, ¬ SearchesBody c) ∧
      ∀ r ∈ rules, (∀ c ∈ r.conditions, c.Unknown) →
        (Block.ofRule? r = none ↔ (r.active = true → ∀ c ∈ r.conditions, ¬ SearchesBody c)) := by
  refine ⟨?_, fun r _ h => ?_⟩
  · rw [generate_eq, generate_eq, String.ofList_inj, List.append_cancel_left_eq,
      writings_withoutUnknown_eq_iff]
    simp [Lingers]
  · rw [Block.ofRule?_eq_none_iff, testsOf_eq_nil_iff_of_unknown h]

/-- A condition with an unknown comparison on the body makes a block of a rule that has no other. -/
theorem unknown_comparison_leaves_block :
    let r : Rule := ⟨1, none, "Later", 0, .all, [⟨.body, .other, "offer"⟩], [⟨.trash, none⟩], true⟩
    (∀ c ∈ r.conditions, c.Unknown) ∧ Block.ofRule? r ≠ none ∧
      generate ([r].map Rule.withoutUnknown) ≠ generate [r] := by
  refine ⟨by decide, by decide, by decide +kernel⟩

end Mailroom.Sieve
