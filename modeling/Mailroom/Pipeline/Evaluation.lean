import Mailroom.Filter.Matching
import Mailroom.Pipeline.Work

/-!
# Applying rules to a stored email

All rules that match the email as it was loaded are applied, one after the other. Each
action is an update of its own, and a failed update is passed over.
-/

namespace Mailroom.Pipeline.Evaluation

open Mailroom.Filter (Action PatternEngine RuleId StoredRule Traits)
open Mailroom.Mail (EmailId Update)
open Mailroom.Time (Instant)

def applyAction (id : EmailId) (time : Instant) (action : Action) : Work Unit := do
  if let some change := action.change? time then
    Work.orSkip (Work.change (·.applyUpdate id (Update.empty.put change)))

def applyRule (id : EmailId) (time : Instant) (rule : StoredRule) : Work Unit := do
  rule.rule.actions.forM (applyAction id time)
  Work.orSkip (Work.change (·.recordMatch rule.id time))

def evaluate [PatternEngine] (id : EmailId) (times : RuleId → Instant) : Work (List RuleId) := do
  let email ← Work.select (·.getEmail id)
  let rules ← Work.select (·.rulesFor email.org email.identity)
  let matching := rules.filter fun rule => rule.rule.isFor (.ofEmail email)
  matching.forM fun rule => applyRule id (times rule.id) rule
  return matching.map StoredRule.id

end Mailroom.Pipeline.Evaluation
