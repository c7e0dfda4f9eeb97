import Mailroom.Filter.Matching
import Mailroom.Pattern.Engine
import Mailroom.Proofs.Text.Cut

/-!
# Literals that stand in a text as they are

Texts are compared in lower case, and the lower-case form of a capital sigma depends on whether it
ends a word. A literal that stands in a text is found there if each of its sigmas ends a word in
the text exactly if it does in the literal alone; `holds_of_verbatim` says so for each comparison.
At the beginning and at the end of a text this is also necessary, and `sigma_in_literal` shows
literals that are passed over.
-/

namespace Mailroom.Text

-- ---------------------------------------------------------------------------
-- Lower case in a context
-- ---------------------------------------------------------------------------

/-- Whether a capital sigma between these ends a word. `before` is what precedes it, nearest
first. -/
def endsWord (before after : List Char) : Bool := casedAhead before && !casedAhead after

/-- The lower-case form that a text has between `before`, nearest first, and `after`. -/
def lowerWithin (before after : List Char) : List Char → List Char
  | [] => []
  | c :: rest =>
    (if c = 'Σ' then [if endsWord before (rest ++ after) then 'ς' else 'σ'] else lowerChar c)
      ++ lowerWithin (c :: before) after rest

theorem lowerWithin_nil (before cs : List Char) : lowerWithin before [] cs = lowerFrom before cs := by
  induction cs generalizing before with
  | nil => rfl
  | cons c rest ih => rw [lowerWithin, lowerFrom, ih, List.append_nil, endsWord]

theorem lowerFrom_append (before cs after : List Char) :
    lowerFrom before (cs ++ after) =
      lowerWithin before after cs ++ lowerFrom (cs.reverse ++ before) after := by
  induction cs generalizing before with
  | nil => rfl
  | cons c rest ih =>
    rw [List.cons_append, lowerFrom, lowerWithin, ih, endsWord, List.append_assoc,
      List.reverse_cons, List.append_assoc, List.singleton_append]

theorem length_lowerWithin (before before' after after' cs : List Char) :
    (lowerWithin before after cs).length = (lowerWithin before' after' cs).length := by
  induction cs generalizing before before' with
  | nil => rfl
  | cons c rest ih =>
    rw [lowerWithin, lowerWithin, List.length_append, List.length_append,
      ih (c :: before) (c :: before')]
    split <;> rfl

theorem forall_splits_cons {α : Type} {x c : α} {rest : List α} {p : List α → List α → Prop} :
    (∀ front back, c :: rest = front ++ x :: back → p front back) ↔
      (c = x → p [] rest) ∧ ∀ front back, rest = front ++ x :: back → p (c :: front) back := by
  constructor
  · refine fun h => ⟨?_, fun front back hrest => h (c :: front) back (by rw [hrest]; rfl)⟩
    rintro rfl
    exact h [] rest rfl
  · rintro ⟨hhere, hlater⟩ front back hsplit
    cases front with
    | nil =>
      obtain ⟨rfl, rfl⟩ := List.cons.inj hsplit
      exact hhere rfl
    | cons d front =>
      obtain ⟨rfl, hrest⟩ := List.cons.inj hsplit
      exact hlater front back hrest

theorem lowerWithin_eq_iff {before before' after after' cs : List Char} :
    lowerWithin before after cs = lowerWithin before' after' cs ↔
      ∀ front back, cs = front ++ 'Σ' :: back →
        endsWord (front.reverse ++ before) (back ++ after) =
          endsWord (front.reverse ++ before') (back ++ after') := by
  induction cs generalizing before before' with
  | nil => simp [lowerWithin]
  | cons c rest ih =>
    have hsame : lowerWithin before after (c :: rest) = lowerWithin before' after' (c :: rest) ↔
        (c = 'Σ' → endsWord before (rest ++ after) = endsWord before' (rest ++ after')) ∧
          lowerWithin (c :: before) after rest = lowerWithin (c :: before') after' rest := by
      have hlength := length_lowerWithin (c :: before) (c :: before') after after' rest
      rw [lowerWithin, lowerWithin, List.append_eq_append_iff_of_size_eq_right hlength]
      refine and_congr_left fun _ => ?_
      by_cases hc : c = 'Σ'
      · cases endsWord before (rest ++ after) <;> cases endsWord before' (rest ++ after') <;>
          simp [hc]
      · simp [hc]
    rw [hsame, ih, forall_splits_cons]
    simp

/-- Each capital sigma of a text ends a word between `before` and `after` exactly if it does in the
text alone. -/
def KeepsSigmas (before cs after : List Char) : Prop :=
  ∀ front back, cs = front ++ 'Σ' :: back →
    endsWord (front.reverse ++ before.reverse) (back ++ after) = endsWord front.reverse back

theorem keepsSigmas_iff {before cs after : List Char} :
    KeepsSigmas before cs after ↔ lowerWithin before.reverse after cs = lowerFrom [] cs := by
  rw [← lowerWithin_nil, lowerWithin_eq_iff]
  simp only [KeepsSigmas, List.append_nil]

instance (before cs after : List Char) : Decidable (KeepsSigmas before cs after) :=
  decidable_of_iff _ keepsSigmas_iff.symm

theorem keepsSigmas_of_not_mem {cs : List Char} (h : 'Σ' ∉ cs) (before after : List Char) :
    KeepsSigmas before cs after := by
  rintro front back rfl
  exact absurd (List.mem_append_right front List.mem_cons_self) h

end Mailroom.Text

namespace Mailroom.Filter

open Mailroom.Text

-- ---------------------------------------------------------------------------
-- Comparisons in lower case
-- ---------------------------------------------------------------------------

theorem lower_toList (s : String) : (lower s).toList = lowerFrom [] s.toList := by
  rw [lower, String.toList_ofList]

section

variable {before literal after : List Char}

theorem contains_holds [PatternEngine] (h : KeepsSigmas before literal after) :
    Comparison.contains.holds (lowerFrom [] (before ++ (literal ++ after))) (lowerFrom [] literal) =
      true := by
  rw [keepsSigmas_iff] at h
  rw [lowerFrom_append, lowerFrom_append, List.append_nil, h, Comparison.holds, occurs_iff_infix]
  exact ⟨_, _, List.append_assoc _ _ _⟩

theorem startsWith_holds_iff [PatternEngine] :
    Comparison.startsWith.holds (lowerFrom [] (literal ++ after)) (lowerFrom [] literal) = true ↔
      KeepsSigmas [] literal after := by
  have hlength := length_lowerWithin [] [] after [] literal
  rw [lowerWithin_nil] at hlength
  rw [Comparison.holds, List.isPrefixOf_iff_prefix, lowerFrom_append, keepsSigmas_iff,
    List.reverse_nil]
  constructor
  · rintro ⟨rest, hrest⟩
    exact (List.append_inj_left hrest hlength.symm).symm
  · intro h
    rw [h]
    exact List.prefix_append _ _

theorem endsWith_holds_iff [PatternEngine] :
    Comparison.endsWith.holds (lowerFrom [] (before ++ literal)) (lowerFrom [] literal) = true ↔
      KeepsSigmas before literal [] := by
  have hlength := length_lowerWithin before.reverse [] [] [] literal
  rw [lowerWithin_nil [] literal] at hlength
  rw [Comparison.holds, List.isSuffixOf_iff_suffix, lowerFrom_append, keepsSigmas_iff,
    List.append_nil, ← lowerWithin_nil before.reverse]
  constructor
  · rintro ⟨rest, hrest⟩
    exact (List.append_inj_right' hrest hlength.symm).symm
  · intro h
    rw [h]
    exact List.suffix_append _ _

end

theorem holds_of_text [PatternEngine] {field : Field} {t : Traits} {text : String}
    (h : field.text? t = some text) (comparison : Comparison) (literal : String) :
    Condition.holds ⟨field, comparison, literal⟩ t =
      comparison.holds (lowerFrom [] text.toList) (lowerFrom [] literal.toList) := by
  cases field <;> simp_all [Condition.holds, Field.text?, lower_toList]

/-- A condition on a text in which its literal stands as it is. It holds if the literal keeps its
sigmas there. At the beginning and at the end of the text it holds only then, and for the whole
text always. -/
theorem holds_of_verbatim [PatternEngine] {field : Field} {t : Traits} {text literal : String}
    (h : field.text? t = some text) :
    (∀ before after, text.toList = before ++ (literal.toList ++ after) →
        KeepsSigmas before literal.toList after →
          Condition.holds ⟨field, .contains, literal⟩ t = true) ∧
      (∀ after, text.toList = literal.toList ++ after →
        (Condition.holds ⟨field, .startsWith, literal⟩ t = true ↔
          KeepsSigmas [] literal.toList after)) ∧
      (∀ before, text.toList = before ++ literal.toList →
        (Condition.holds ⟨field, .endsWith, literal⟩ t = true ↔
          KeepsSigmas before literal.toList [])) ∧
      (text = literal → Condition.holds ⟨field, .equals, literal⟩ t = true) := by
  simp only [holds_of_text h]
  refine ⟨fun before after htext hkeeps => ?_, fun after htext => ?_, fun before htext => ?_, ?_⟩
  · rw [htext]
    exact contains_holds hkeeps
  · rw [htext]
    exact startsWith_holds_iff
  · rw [htext]
    exact endsWith_holds_iff
  · rintro rfl
    exact beq_self_eq_true _

/-- A sigma that ends a word in the subject and in the literal. -/
theorem holds_of_verbatim_sigma :
    let t : Traits := ⟨"", [], "an aΣ", none, false⟩
    Condition.holds ⟨.subject, .contains, "aΣ"⟩ t = true ∧
      Condition.holds ⟨.subject, .startsWith, "an"⟩ t = true ∧
      Condition.holds ⟨.subject, .endsWith, "aΣ"⟩ t = true ∧
      Condition.holds ⟨.subject, .equals, "an aΣ"⟩ t = true := by
  have h : Field.subject.text? ⟨"", [], "an aΣ", none, false⟩ = some "an aΣ" := rfl
  refine ⟨?_, ?_, ?_, ?_⟩
  · exact (holds_of_verbatim h).1 ['a', 'n', ' '] [] rfl (by decide)
  · exact ((holds_of_verbatim h).2.1 [' ', 'a', 'Σ'] rfl).mpr
      (keepsSigmas_of_not_mem (by decide) [] [' ', 'a', 'Σ'])
  · exact ((holds_of_verbatim h).2.2.1 ['a', 'n', ' '] rfl).mpr (by decide)
  · exact (holds_of_verbatim h).2.2.2 rfl

/-- A sigma that ends a word in the subject and none in the literal, and one that ends a word in
the literal and none in the subject. -/
theorem sigma_in_literal :
    let t : Traits := ⟨"", [], "aΣ", none, false⟩
    let u : Traits := ⟨"", [], "aΣb", none, false⟩
    ("Σ".toList <:+ t.subject.toList ∧ Condition.holds ⟨.subject, .contains, "Σ"⟩ t = false ∧
        Condition.holds ⟨.subject, .endsWith, "Σ"⟩ t = false) ∧
      "aΣ".toList <+: u.subject.toList ∧ Condition.holds ⟨.subject, .contains, "aΣ"⟩ u = false ∧
        Condition.holds ⟨.subject, .startsWith, "aΣ"⟩ u = false := by
  decide

end Mailroom.Filter
