import Mailroom.Filter.Format
import Mailroom.Proofs.Json.Record

/-!
# Conditions and actions as texts and back

Every name is read back, `other` too, as it is no name of anything else. So lists of conditions
and of actions are read as they were written, whatever their texts hold.
-/

namespace Mailroom.Filter

open Mailroom.Json (Document Result Sets Written)

variable {α β : Type} {depth : Nat}

theorem written_name {ofName : String → α} {a : α} {name : String} (h : ofName name = a) :
    Written depth (Document.asName fun name => some (ofName name)) a (.string name) where
  writable := .string name
  read := by
    rw [Document.ofJson, Document.asName, h]

theorem written_bind {read : Document → Result α} {check : α → Result β} {a : α} {b : β} {j : Json}
    (h : Written depth read a j) (hcheck : check a = .ok b) :
    Written depth (fun d => read d >>= check) b j where
  writable := h.writable
  read := by
    rw [h.read]
    exact hcheck

theorem Condition.written (c : Condition) : Written (depth + 1) Condition.read c c.toJson := by
  obtain ⟨field, comparison, literal⟩ := c
  refine written_bind (a := ⟨some field, some comparison, some literal⟩)
    (Sets.written (by decide) ?_) rfl
  refine .field (⟨some ·, none, none⟩) (written_name field.ofName_name) rfl ?_
  refine .field (⟨some field, some ·, none⟩) (written_name comparison.ofName_name) rfl ?_
  exact .value (.string literal) rfl (.nil _)

theorem Action.written (a : Action) : Written (depth + 1) Action.read a a.toJson := by
  obtain ⟨kind, argument⟩ := a
  rw [toJson, ← List.append_nil (Json.member? "value" argument)]
  refine written_bind (a := (some kind, argument)) (Sets.written (by decide) ?_) rfl
  refine .field ((some ·, none)) (written_name kind.ofName_name) rfl ?_
  exact .optional ((some kind, ·)) rfl (fun _ => rfl) (.nil _)

theorem read_conditions (conditions : List Condition) :
    Json.read readConditions (conditionsToJson conditions).render = .ok conditions := by
  have h : Written 2 readConditions conditions (conditionsToJson conditions) :=
    .list fun c _ => c.written
  rw [h.writable.read_render, h.read]

theorem read_actions (actions : List Action) :
    Json.read readActions (actionsToJson actions).render = .ok actions := by
  have h : Written 2 readActions actions (actionsToJson actions) := .list fun a _ => a.written
  rw [h.writable.read_render, h.read]

end Mailroom.Filter
