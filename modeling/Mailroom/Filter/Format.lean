import Mailroom.Filter.Rule
import Mailroom.Json.Reader

/-!
# Rules as JSON

Conditions and actions are stored as JSON texts. Names are texts, or objects whose only
member has the name and the value null.
-/

namespace Mailroom.Filter

open Mailroom.Json (Document Result)

def required {α : Type} : Option α → Result α
  | some value => .ok value
  | none => .error .mismatch

def Combinator.read (d : Document) : Result Combinator := d.asName Combinator.ofName?

def Combinator.toJson (c : Combinator) : Json := .string c.name

structure ConditionFields where
  field : Option Field
  comparison : Option Comparison
  literal : Option String

def Condition.read (d : Document) : Result Condition := do
  let fields ← d.asRecord {
    names := ["field", "operator", "value"]
    required := 3
    set := fun (fields : ConditionFields) name d => match name with
      | "field" => return { fields with field := ← d.asName fun name => some (Field.ofName name) }
      | "operator" =>
        return { fields with comparison := ← d.asName fun name => some (Comparison.ofName name) }
      | _ => return { fields with literal := ← d.asString } } ⟨none, none, none⟩
  return ⟨← required fields.field, ← required fields.comparison, ← required fields.literal⟩

def Condition.toJson (c : Condition) : Json :=
  .object [("field", .string c.field.name), ("operator", .string c.comparison.name),
    ("value", .string c.literal)]

def Action.read (d : Document) : Result Action := do
  let (kind, argument) ← d.asRecord {
    names := ["type", "value"]
    required := 1
    set := fun (fields : Option ActionKind × Option String) name d => match name with
      | "type" => return (← d.asName fun name => some (ActionKind.ofName name), fields.2)
      | _ => return (fields.1, ← d.asOption Document.asString) } (none, none)
  return ⟨← required kind, argument⟩

/-- A missing argument is left out. -/
def Action.toJson (a : Action) : Json :=
  .object (("type", .string a.kind.name) :: Json.member? "value" a.argument)

def readConditions (d : Document) : Result (List Condition) := d.asList Condition.read

def readActions (d : Document) : Result (List Action) := d.asList Action.read

def conditionsToJson (conditions : List Condition) : Json :=
  .array (conditions.map Condition.toJson)

def actionsToJson (actions : List Action) : Json := .array (actions.map Action.toJson)

end Mailroom.Filter
