import Mailroom.Pattern.Engine
import Mailroom.Proofs.Filter.Matching

/-!
# Conditions of an unknown kind

A field or a comparison of a later version is kept as `other`. Conditions with one of them do not
hold, whatever the email is, except that the question for attachments is answered before its
comparison is looked at. `holds_of_unknown` says so for single conditions and for the rules that
contain them, and `unknown_comparison_holds` is a condition on which this shows.
-/

namespace Mailroom.Filter

variable {c : Condition} {t : Traits}

def Condition.Unknown (c : Condition) : Prop := c.field = .other ∨ c.comparison = .other

instance (c : Condition) : Decidable c.Unknown := inferInstanceAs (Decidable (_ ∨ _))

def Condition.AnsweredBy (c : Condition) (t : Traits) : Prop :=
  c.field = .hasAttachment ∧ c.literal = if t.hasAttachments then "true" else "false"

theorem Condition.Unknown.holds_iff [PatternEngine] (h : c.Unknown) :
    c.holds t = true ↔ c.AnsweredBy t := by
  obtain ⟨field, comparison, literal⟩ := c
  rcases h with h | h
  · obtain rfl : field = .other := h
    simp [Condition.holds, Field.text?, Condition.AnsweredBy]
  · obtain rfl : comparison = .other := h
    -- the comparison decides for every field that has a text
    cases field <;> simp [Condition.holds, Field.text?, Comparison.holds, Condition.AnsweredBy]

/-- A condition of an unknown kind holds exactly if it is answered by whether there are
attachments. With one that is not, an `all` rule is for no email; and a rule of such conditions
only is for the emails that they are answered by. -/
theorem holds_of_unknown [PatternEngine] (t : Traits) (conditions : List Condition) :
    (∀ c ∈ conditions, c.Unknown → (c.holds t = true ↔ c.AnsweredBy t)) ∧
      ((∃ c ∈ conditions, c.Unknown ∧ ¬ c.AnsweredBy t) →
        Combinator.all.holds conditions t = false) ∧
      ((∀ c ∈ conditions, c.Unknown) →
        (Combinator.all.holds conditions t = true ↔
          conditions ≠ [] ∧ ∀ c ∈ conditions, c.AnsweredBy t) ∧
        (Combinator.any.holds conditions t = true ↔ ∃ c ∈ conditions, c.AnsweredBy t)) := by
  refine ⟨fun c _ hc => hc.holds_iff, ?_, fun h => ⟨?_, ?_⟩⟩
  · rintro ⟨c, hc, hunknown, hanswered⟩
    rw [← Bool.not_eq_true, Combinator.all_holds_iff]
    exact fun hall => hanswered (hunknown.holds_iff.mp (hall.2 c hc))
  · rw [Combinator.all_holds_iff]
    exact and_congr_right fun _ => forall₂_congr fun c hc => (h c hc).holds_iff
  · rw [Combinator.any_holds_iff]
    exact exists_congr fun c => and_congr_right fun hc => (h c hc).holds_iff

/-- A condition with an unknown comparison holds of an email with attachments, and the rules that
consist of it are for that email. -/
theorem unknown_comparison_holds :
    let c : Condition := ⟨.hasAttachment, .other, "true"⟩
    let t : Traits := ⟨"", [], "", none, true⟩
    c.Unknown ∧ c.holds t = true ∧ ∀ combinator : Combinator, combinator.holds [c] t = true :=
  ⟨.inr rfl, rfl, fun combinator => by cases combinator <;> rfl⟩

end Mailroom.Filter
