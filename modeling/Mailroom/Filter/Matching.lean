import Mailroom.Filter.Rule
import Mailroom.Text.Case
import Mailroom.Text.Cut

/-!
# Which emails a rule is about

Texts are compared in lower case, patterns included. Conditions on fields or with
comparisons that are not known never hold, nor do patterns that cannot be read; a rule
without conditions matches nothing. What patterns mean is left to an engine.
-/

namespace Mailroom.Filter

open Mailroom.Mail (Email)

/-- Reads patterns. A pattern that it can read tells whether it matches somewhere in a text. -/
class PatternEngine where
  read? : List Char → Option (List Char → Bool)

structure Traits where
  sender : String
  recipients : List String
  subject : String
  body : Option String
  hasAttachments : Bool
  deriving DecidableEq, Repr

def Traits.ofEmail (email : Email) : Traits :=
  ⟨email.sender, email.recipients, email.subject, email.textBody, email.hasAttachments⟩

/-- Compares two texts that are already in lower case. -/
def Comparison.holds [PatternEngine] (comparison : Comparison) (text literal : List Char) : Bool :=
  match comparison with
  | .contains => Text.occurs literal text
  | .equals => text == literal
  | .startsWith => literal.isPrefixOf text
  | .endsWith => literal.isSuffixOf text
  | .pattern =>
    match PatternEngine.read? literal with
    | some matchesIn => matchesIn text
    | none => false
  | .other => false

def Field.text? (field : Field) (t : Traits) : Option String :=
  match field with
  | .sender => some t.sender
  | .recipients => some (", ".intercalate t.recipients)
  | .subject => some t.subject
  | .body => some (t.body.getD "")
  | .hasAttachment | .other => none

/-- Whether there are attachments is compared with `true` or `false`, whatever the
comparison. -/
def Condition.holds [PatternEngine] (c : Condition) (t : Traits) : Bool :=
  match c.field with
  | .hasAttachment => c.literal == if t.hasAttachments then "true" else "false"
  | field =>
    match field.text? t with
    | some text => c.comparison.holds (Text.lower text).toList (Text.lower c.literal).toList
    | none => false

/-- Whether the conditions hold together. No condition at all never holds. -/
def Combinator.holds [PatternEngine] (combinator : Combinator) (conditions : List Condition)
    (t : Traits) : Bool :=
  !conditions.isEmpty && match combinator with
    | .all => conditions.all (·.holds t)
    | .any => conditions.any (·.holds t)

def Rule.isFor [PatternEngine] (rule : Rule) (t : Traits) : Bool :=
  rule.combinator.holds rule.conditions t

end Mailroom.Filter
