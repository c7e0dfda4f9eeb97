import Mailroom.Filter.Matching
import Mailroom.Proofs.Text.Cut

/-!
# Emails that a rule is about, and what it asks for

Rules are about emails: what a condition says of one is said here of the columns of the email that
it reads, and of the two texts in lower case. The engine for patterns is arbitrary. Each action asks
for at most one change, and those that are meant for the server of a mailbox ask for none.
-/

namespace Mailroom.Filter

open Mailroom.Mail (Change Email Folder)
open Mailroom.Text (lower occurs_iff_infix)
open Mailroom.Time (Instant)

variable [PatternEngine] {c : Condition} {conditions : List Condition} {t : Traits} {e : Email}

/-- How comparisons relate a text to a literal. Others relate nothing. -/
inductive Relates (text literal : List Char) : Comparison → Prop
  | contains (h : literal <:+: text) : Relates text literal .contains
  | equals (h : text = literal) : Relates text literal .equals
  | startsWith (h : literal <+: text) : Relates text literal .startsWith
  | endsWith (h : literal <:+ text) : Relates text literal .endsWith
  | pattern {matchesIn : List Char → Bool} (hread : PatternEngine.read? literal = some matchesIn)
      (h : matchesIn text = true) : Relates text literal .pattern

inductive Condition.TrueOf (e : Email) : Condition → Prop
  | sender {comparison : Comparison} {literal : String}
      (h : Relates (lower e.sender).toList (lower literal).toList comparison) :
      TrueOf e ⟨.sender, comparison, literal⟩
  | recipients {comparison : Comparison} {literal : String}
      (h : Relates (lower (", ".intercalate e.recipients)).toList (lower literal).toList comparison) :
      TrueOf e ⟨.recipients, comparison, literal⟩
  | subject {comparison : Comparison} {literal : String}
      (h : Relates (lower e.subject).toList (lower literal).toList comparison) :
      TrueOf e ⟨.subject, comparison, literal⟩
  | body {comparison : Comparison} {literal : String}
      (h : Relates (lower (e.textBody.getD "")).toList (lower literal).toList comparison) :
      TrueOf e ⟨.body, comparison, literal⟩
  | hasAttachment {comparison : Comparison} {literal : String}
      (h : literal = if e.hasAttachments then "true" else "false") :
      TrueOf e ⟨.hasAttachment, comparison, literal⟩

/-- A rule without conditions is about no email. -/
inductive Rule.About (e : Email) (r : Rule) : Prop
  | all (hcombinator : r.combinator = .all) (hsome : r.conditions ≠ [])
      (h : ∀ c ∈ r.conditions, c.TrueOf e)
  | any (hcombinator : r.combinator = .any) (h : ∃ c ∈ r.conditions, c.TrueOf e)

theorem Comparison.holds_iff {comparison : Comparison} {text literal : List Char} :
    comparison.holds text literal = true ↔ Relates text literal comparison := by
  cases comparison with
  | contains =>
    simp only [Comparison.holds, occurs_iff_infix]
    exact ⟨.contains, fun | .contains h => h⟩
  | equals =>
    simp only [Comparison.holds, beq_iff_eq]
    exact ⟨.equals, fun | .equals h => h⟩
  | startsWith =>
    simp only [Comparison.holds, List.isPrefixOf_iff_prefix]
    exact ⟨.startsWith, fun | .startsWith h => h⟩
  | endsWith =>
    simp only [Comparison.holds, List.isSuffixOf_iff_suffix]
    exact ⟨.endsWith, fun | .endsWith h => h⟩
  | pattern =>
    simp only [Comparison.holds]
    constructor
    · intro h
      cases hread : PatternEngine.read? literal with
      | none => simp [hread] at h
      | some matchesIn => exact .pattern hread (by simpa [hread] using h)
    · rintro ⟨⟩
      simp [*]
  | other => exact ⟨fun h => (nomatch h), fun h => (nomatch h)⟩

theorem Condition.holds_ofEmail_iff : c.holds (.ofEmail e) = true ↔ c.TrueOf e := by
  obtain ⟨field, comparison, literal⟩ := c
  cases field with
  | sender => exact Comparison.holds_iff.trans ⟨.sender, fun | .sender h => h⟩
  | recipients => exact Comparison.holds_iff.trans ⟨.recipients, fun | .recipients h => h⟩
  | subject => exact Comparison.holds_iff.trans ⟨.subject, fun | .subject h => h⟩
  | body => exact Comparison.holds_iff.trans ⟨.body, fun | .body h => h⟩
  | hasAttachment => exact beq_iff_eq.trans ⟨.hasAttachment, fun | .hasAttachment h => h⟩
  | other => exact ⟨fun h => (nomatch h), fun h => (nomatch h)⟩

theorem Combinator.all_holds_iff :
    Combinator.all.holds conditions t = true ↔
      conditions ≠ [] ∧ ∀ c ∈ conditions, c.holds t = true := by
  simp [Combinator.holds]

theorem Combinator.any_holds_iff :
    Combinator.any.holds conditions t = true ↔ ∃ c ∈ conditions, c.holds t = true := by
  cases conditions <;> simp [Combinator.holds]

theorem Rule.isFor_ofEmail_iff {r : Rule} : r.isFor (.ofEmail e) = true ↔ r.About e := by
  cases hcombinator : r.combinator with
  | all =>
    simp only [Rule.isFor, hcombinator, Combinator.all_holds_iff, Condition.holds_ofEmail_iff]
    constructor
    · rintro ⟨hsome, h⟩
      exact .all hcombinator hsome h
    · rintro (⟨-, hsome, h⟩ | ⟨hany, -⟩)
      · exact ⟨hsome, h⟩
      · cases hcombinator.symm.trans hany
  | any =>
    simp only [Rule.isFor, hcombinator, Combinator.any_holds_iff, Condition.holds_ofEmail_iff]
    constructor
    · exact .any hcombinator
    · rintro (⟨hall, -, -⟩ | ⟨-, h⟩)
      · cases hcombinator.symm.trans hall
      · exact h

/-- The change that an action asks for. There is no moving to a folder without a name. -/
inductive Action.Asks (time : Instant) : Action → Change → Prop
  | move {name : String} (h : name ≠ "") :
      Asks time ⟨.moveToFolder, some name⟩ (.folder (.ofName name))
  | star {argument : Option String} : Asks time ⟨.star, argument⟩ (.starred true)
  | markRead {argument : Option String} : Asks time ⟨.markRead, argument⟩ (.read time)
  | archive {argument : Option String} : Asks time ⟨.archive, argument⟩ (.archived true)
  | trash {argument : Option String} : Asks time ⟨.trash, argument⟩ (.trashed time)

omit [PatternEngine] in
theorem Action.change?_eq_some_iff {action : Action} {time : Instant} {change : Change} :
    action.change? time = some change ↔ action.Asks time change := by
  obtain ⟨kind, argument⟩ := action
  cases kind with
  | moveToFolder =>
    simp only [Action.change?, Option.map_eq_some_iff, Option.filter_eq_some_iff]
    constructor
    · rintro ⟨name, ⟨rfl, hname⟩, rfl⟩
      exact .move (by simpa using hname)
    · rintro ⟨hname⟩
      exact ⟨_, ⟨rfl, by simpa using hname⟩, rfl⟩
  | star => exact Option.some_inj.trans ⟨fun h => h ▸ .star, fun | .star => rfl⟩
  | markRead => exact Option.some_inj.trans ⟨fun h => h ▸ .markRead, fun | .markRead => rfl⟩
  | archive => exact Option.some_inj.trans ⟨fun h => h ▸ .archive, fun | .archive => rfl⟩
  | trash => exact Option.some_inj.trans ⟨fun h => h ▸ .trash, fun | .trash => rfl⟩
  | forward | reject | stop | other => exact ⟨fun h => (nomatch h), fun h => (nomatch h)⟩

end Mailroom.Filter
