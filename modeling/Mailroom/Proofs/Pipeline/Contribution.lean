import Mailroom.Proofs.Pipeline.Script

/-!
# What tasks contribute

Decoding fills the columns of the contents and adds attachments, evaluation sets what rules decide
and records their matches, and each of them only for its own email.
-/

namespace Mailroom.Pipeline

open Mailroom.Filter (Action PatternEngine RuleId StoredRule)
open Mailroom.Mail
open Mailroom.Store
open Mailroom.Time (Instant)

-- ---------------------------------------------------------------------------
-- Which task has which effects
-- ---------------------------------------------------------------------------

/-- Decoding assigns contents and adds attachments, evaluation assigns what rules decide, and both
only for their own email. -/
def Effect.Of (task : Task) : Effect → Prop
  | .look => True
  | .update id u => task.isDecode = true ∧ task.email = id ∧ ∀ a ∈ u.assignments, a.isContent = true
  | .decide id (.update c) =>
    task.isDecode = false ∧ task.email = id ∧ ∀ a ∈ c.assignments, a.isContent = false
  | .decide id (.recordMatch ..) => task.isDecode = false ∧ task.email = id
  | .attach row => task.isDecode = true ∧ task.email = row.email
  | .put .. => task.isDecode = true

theorem Effect.Of.assignments {task : Task} {effect : Effect} (h : effect.Of task) {id : EmailId} :
    ∀ a ∈ effect.assignments id, task.email = id ∧ a.isContent = task.isDecode := by
  intro a ha
  cases effect with
  | update e u =>
    obtain ⟨hdecode, hemail, hall⟩ := h
    by_cases he : e = id
    · rw [Effect.assignments, if_pos he] at ha
      exact ⟨hemail.trans he, by rw [hall a ha, hdecode]⟩
    · simp [Effect.assignments, he] at ha
  | decide e statement =>
    cases statement with
    | recordMatch => simp [Effect.assignments] at ha
    | update c =>
      obtain ⟨hdecode, hemail, hall⟩ := h
      by_cases he : e = id
      · rw [Effect.assignments, if_pos he] at ha
        exact ⟨hemail.trans he, by rw [hall a ha, hdecode]⟩
      · simp [Effect.assignments, he] at ha
  | _ => simp [Effect.assignments] at ha

theorem Effect.Of.added {task : Task} {effect : Effect} (h : effect.Of task) :
    ∀ row ∈ effect.added, task.isDecode = true ∧ task.email = row.email := by
  intro row hrow
  cases effect with
  | attach =>
    obtain rfl := List.mem_singleton.mp hrow
    exact h
  | _ => simp [Effect.added] at hrow

theorem Evaluation.not_isContent_of_asks {action : Action} {time : Instant} {c : Change}
    (h : action.Asks time c) : ∀ a ∈ c.assignments, a.isContent = false := by
  cases h <;>
    simp [Change.assignments, Assignment.isContent, Assignment.column, Column.isContent]

theorem Evaluation.of_decide {id : EmailId} {times : RuleId → Instant} {rules : List StoredRule} :
    ∀ statement ∈ rules.flatMap (statementsOf times),
      (Effect.decide id statement).Of (.evaluate id) := by
  intro statement hs
  obtain ⟨rule, -, hs⟩ := List.mem_flatMap.mp hs
  obtain ⟨action, -, c, hasks, rfl⟩ | rfl := mem_statementsOf.mp hs
  · exact ⟨rfl, rfl, not_isContent_of_asks hasks⟩
  · exact ⟨rfl, rfl⟩

theorem Task.of_script [PatternEngine] {times : EmailId → RuleId → Instant} {s : State}
    (task : Task) :
    ∀ effect ∈ task.script times s, effect.Of task := by
  intro effect he
  cases task with
  | decode id source =>
    rw [script, Decoding.script] at he
    split at he
    · cases he
    · rcases List.mem_cons.mp he with rfl | he
      · exact ⟨rfl, rfl, Decoding.isContent_update⟩
      · obtain ⟨e, -, he⟩ := List.mem_flatMap.mp he
        rcases List.mem_cons.mp he with rfl | he
        · exact rfl
        · obtain rfl := List.mem_singleton.mp he
          exact ⟨rfl, rfl⟩
  | evaluate id =>
    rw [script, Evaluation.script] at he
    split at he
    · cases he
    · rcases List.mem_cons.mp he with rfl | he
      · trivial
      · obtain ⟨statement, hs, rfl⟩ := List.mem_map.mp he
        exact Evaluation.of_decide statement hs

theorem Effect.eq_of_mem_matched {effect : Effect} {rule : RuleId} {time : Instant}
    (h : time ∈ effect.matched rule) : ∃ id, effect = .decide id (.recordMatch rule time) := by
  cases effect with
  | decide id statement =>
    cases statement with
    | update => cases h
    | recordMatch r t =>
      by_cases hr : r = rule
      · simp only [matched, hr, if_true, List.mem_singleton] at h
        exact ⟨id, by rw [hr, h]⟩
      · simp [matched, hr] at h
  | _ => cases h

theorem Evaluation.time_of_mem_script [PatternEngine] {id email : EmailId}
    {times : RuleId → Instant} {s : State} {rule : RuleId} {time : Instant}
    (h : .decide email (.recordMatch rule time) ∈ script id times s) : time = times rule := by
  rw [script] at h
  split at h
  · cases h
  · obtain ⟨statement, hs, heq⟩ := List.mem_map.mp ((List.mem_cons.mp h).resolve_left (by simp))
    cases heq
    exact time_of_mem_flatMap hs

-- ---------------------------------------------------------------------------
-- How often tasks contribute
-- ---------------------------------------------------------------------------

variable {times : EmailId → RuleId → Instant}

theorem Decoding.script_cases (id : EmailId) (source : Location) (objects : Object.Store) :
    script id source objects = [] ∨ ∃ u saves, script id source objects = .update id u :: saves ∧
      ∀ effect ∈ saves, ∀ email, effect.assignments email = [] := by
  unfold script
  split
  · exact .inl rfl
  · refine .inr ⟨_, _, rfl, fun effect he email => ?_⟩
    obtain ⟨e, -, he⟩ := List.mem_flatMap.mp he
    rcases List.mem_cons.mp he with rfl | he
    · rfl
    · obtain rfl := List.mem_singleton.mp he
      rfl

theorem Decoding.assignments_begun {id : EmailId} {source : Location} {objects : Object.Store}
    {done : List Effect} (h : done <+: .look :: script id source objects) (email : EmailId) :
    done.flatMap (·.assignments email) =
      if 2 ≤ done.length then (script id source objects).flatMap (·.assignments email) else [] := by
  rcases done with _ | ⟨first, _ | ⟨second, rest⟩⟩
  · rfl
  · obtain ⟨rfl, -⟩ := List.cons_prefix_cons.mp h
    rfl
  · obtain ⟨rfl, hscript⟩ := List.cons_prefix_cons.mp h
    rw [if_pos (by simp)]
    rcases script_cases id source objects with hnone | ⟨u, saves, hsome, hsaves⟩
    · simp [hnone] at hscript
    · rw [hsome] at hscript ⊢
      obtain ⟨rfl, hrest⟩ := List.cons_prefix_cons.mp hscript
      have hnone (effects : List Effect) (h : ∀ e ∈ effects, e ∈ saves) :
          effects.flatMap (·.assignments email) = [] :=
        List.flatMap_eq_nil_iff.mpr fun e he => hsaves e (h e he) email
      rw [List.flatMap_cons, List.flatMap_cons, List.flatMap_cons,
        hnone rest fun e he => hrest.subset he, hnone saves fun _ he => he]
      rfl

theorem Evaluation.length_matched (id : EmailId) (statements : List Statement) (rule : RuleId) :
    ((statements.map (Effect.decide id)).flatMap (·.matched rule)).length =
      (matchesOf statements).count rule := by
  induction statements with
  | nil => rfl
  | cons statement rest ih =>
    cases statement with
    | update c => simpa [matchesOf, Effect.matched] using ih
    | recordMatch r time =>
      by_cases hr : r = rule
      · simpa [matchesOf, Effect.matched, hr, List.count_cons, Nat.add_comm] using ih
      · simpa [matchesOf, Effect.matched, hr, List.count_cons] using ih

theorem Evaluation.nodup_matching [PatternEngine] {s : State} (h : s.Reliable) (e : Email) :
    ((matching s.database.tables e).map StoredRule.id).Nodup := by
  obtain ⟨rules, hrules, hmem, horder⟩ := exists_applicable h.isOpen e
  have hread := Database.rulesFor_eq h.isOpen e.org e.identity
  obtain rfl := Except.ok.inj (hrules.symm.trans hread)
  rw [matching, rulesOfRows_uncounted, ← map_uncounted_applicable, List.map_map]
  exact nodup_ids (fun r hr => (hmem r).mp hr) horder

theorem Task.length_matched [PatternEngine] {s : State} (h : s.Reliable) (task : Task)
    (rule : RuleId) :
    ((task.script times s).flatMap (·.matched rule)).length =
      if rule ∈ (task.answer s).toOption.getD [] then 1 else 0 := by
  cases task with
  | decode id source =>
    have hnone : (script times s (.decode id source)).flatMap (·.matched rule) = [] := by
      refine List.flatMap_eq_nil_iff.mpr fun effect he => ?_
      have hof := of_script (.decode id source) effect he
      cases effect with
      | decide e statement =>
        cases statement with
        | update => rfl
        | recordMatch => cases hof.1
      | _ => rfl
    rw [hnone]
    rfl
  | evaluate id =>
    rw [script, Evaluation.script, answer, Evaluation.answer]
    cases s.database.getEmail id with
    | error => rfl
    | ok e =>
      have hnodup := Evaluation.nodup_matching h e
      show ((List.map _ _).flatMap _).length =
        if rule ∈ (Evaluation.matching s.database.tables e).map StoredRule.id then 1 else 0
      rw [Evaluation.length_matched, Evaluation.matchesOf_flatMap, hnodup.count]

end Mailroom.Pipeline
