import Mailroom.Text.Blank

/-!
# Trimming takes away what was put around a text
-/

namespace Mailroom.Text

def Trimmed (cs : List Char) : Prop :=
  (∀ c ∈ cs.head?, isBlank c = false) ∧ ∀ c ∈ cs.getLast?, isBlank c = false

instance (cs : List Char) : Decidable (Trimmed cs) :=
  decidable_of_iff
    ((cs.head?.all fun c => !isBlank c) = true ∧ (cs.getLast?.all fun c => !isBlank c) = true)
    (by simp [Trimmed, Option.all_eq_true])

theorem dropWhile_append_of_all {α : Type} {p : α → Bool} {before xs : List α}
    (h : ∀ x ∈ before, p x = true) (hx : ∀ x ∈ xs.head?, p x = false) :
    (before ++ xs).dropWhile p = xs := by
  rw [List.dropWhile_append_of_pos h]
  cases xs with
  | nil => rfl
  | cons x xs => simp [hx x rfl]

theorem trimBoth_append {α : Type} {p : α → Bool} {xs : List α} (before after : List α)
    (hb : ∀ x ∈ before, p x = true) (ha : ∀ x ∈ after, p x = true)
    (hhead : ∀ x ∈ xs.head?, p x = false) (hlast : ∀ x ∈ xs.getLast?, p x = false) :
    trimBoth p (before ++ xs ++ after) = xs := by
  unfold trimBoth
  by_cases hxs : xs = []
  · subst hxs
    have hall : ∀ x ∈ before ++ after, p x = true := fun x hx =>
      (List.mem_append.mp hx).elim (hb x) (ha x)
    have hdrop : (before ++ after ++ []).dropWhile p = [] :=
      dropWhile_append_of_all hall (by simp)
    rw [List.append_nil] at hdrop
    simp [hdrop]
  · have hfirst : ∀ x ∈ (xs ++ after).head?, p x = false := by
      obtain ⟨x, rest, rfl⟩ := List.exists_cons_of_ne_nil hxs
      exact hhead
    have hback : ∀ x ∈ xs.reverse.head?, p x = false := by
      rw [List.head?_reverse]
      exact hlast
    rw [List.append_assoc, dropWhile_append_of_all hb hfirst, List.reverse_append,
      dropWhile_append_of_all (fun x hx => ha x (List.mem_reverse.mp hx)) hback,
      List.reverse_reverse]

theorem trim_append {cs : List Char} (before after : List Char)
    (hb : ∀ c ∈ before, isBlank c = true) (ha : ∀ c ∈ after, isBlank c = true)
    (h : Trimmed cs) : trim (before ++ cs ++ after) = cs :=
  trimBoth_append before after hb ha h.1 h.2

theorem trim_of_trimmed {cs : List Char} (h : Trimmed cs) : trim cs = cs := by
  simpa using trim_append [] [] (by simp) (by simp) h

theorem mem_dropWhile {α : Type} {p : α → Bool} {x : α} {xs : List α} (hx : p x = false)
    (h : x ∈ xs) : x ∈ xs.dropWhile p := by
  induction xs with
  | nil => exact h
  | cons y xs ih =>
    rw [List.dropWhile_cons]
    split
    · next hy =>
      refine ih ((List.mem_cons.mp h).resolve_left ?_)
      rintro rfl
      simp [hx] at hy
    · exact h

theorem mem_of_mem_trimBoth {α : Type} {p : α → Bool} {x : α} {xs : List α}
    (h : x ∈ trimBoth p xs) : x ∈ xs := by
  unfold trimBoth at h
  rw [List.mem_reverse] at h
  exact (List.dropWhile_suffix p).subset (List.mem_reverse.mp ((List.dropWhile_suffix p).subset h))

theorem mem_trim {c : Char} {cs : List Char} (hc : isBlank c = false) (h : c ∈ cs) : c ∈ trim cs := by
  unfold trim trimBoth
  rw [List.mem_reverse]
  refine mem_dropWhile hc ?_
  rw [List.mem_reverse]
  exact mem_dropWhile hc h

theorem trim_eq_nil_iff {cs : List Char} : trim cs = [] ↔ ∀ c ∈ cs, isBlank c = true := by
  constructor
  · intro h c hc
    refine Bool.not_eq_false _ ▸ fun hblank => ?_
    have hmem := mem_trim hblank hc
    rw [h] at hmem
    exact nomatch hmem
  · intro h
    have htrimmed : Trimmed [] := by simp [Trimmed]
    simpa using trim_append cs [] h (by simp) htrimmed

theorem prefix_trim {word cs : List Char} (hne : word ≠ []) (hw : ∀ c ∈ word, isBlank c = false)
    (h : word <+: cs) : word <+: trim cs := by
  obtain ⟨rest, rfl⟩ := h
  obtain ⟨first, more, rfl⟩ := List.exists_cons_of_ne_nil hne
  have hfront : ((first :: more) ++ rest).dropWhile isBlank = (first :: more) ++ rest := by
    simp [hw first List.mem_cons_self]
  have hback : (first :: more).reverse.dropWhile isBlank = (first :: more).reverse := by
    rw [← List.nil_append (List.reverse _)]
    refine dropWhile_append_of_all (by simp) fun c hc => hw c ?_
    exact List.mem_reverse.mp (List.mem_of_mem_head? hc)
  unfold trim trimBoth
  rw [hfront, List.reverse_append, List.dropWhile_append]
  split
  · simp only [hback, List.reverse_reverse, List.prefix_refl]
  · rw [List.reverse_append, List.reverse_reverse]
    exact List.prefix_append _ _

theorem head_dropWhile {α : Type} (p : α → Bool) (xs : List α) :
    ∀ x ∈ (xs.dropWhile p).head?, p x = false := by
  intro x hx
  have h := List.head?_dropWhile_not p xs
  rw [Option.mem_def.mp hx] at h
  exact h

theorem append_of_dropWhile {α : Type} {p : α → Bool} {xs front back : List α} {x : α}
    (hfront : xs.takeWhile p = front) (hback : xs.dropWhile p = x :: back) :
    xs = front ++ x :: back ∧ (∀ y ∈ front, p y = true) ∧ p x = false := by
  subst hfront
  refine ⟨?_, List.all_eq_true.mp List.all_takeWhile, head_dropWhile p xs x (by rw [hback]; rfl)⟩
  rw [← hback, List.takeWhile_append_dropWhile]

theorem dropWhile_of_append {α : Type} {p : α → Bool} {front : List α} {x : α} (back : List α)
    (hfront : ∀ y ∈ front, p y = true) (hx : p x = false) :
    (front ++ x :: back).takeWhile p = front ∧ (front ++ x :: back).dropWhile p = x :: back := by
  rw [List.takeWhile_append_of_pos hfront, List.dropWhile_append_of_pos hfront]
  simp [hx]

structure IsTrim {α : Type} (p : α → Bool) (xs core : List α) : Prop where
  around : ∃ front back, xs = front ++ core ++ back ∧ (∀ x ∈ front, p x = true) ∧
    ∀ x ∈ back, p x = true
  head : ∀ x ∈ core.head?, p x = false
  last : ∀ x ∈ core.getLast?, p x = false

theorem isTrim_trimBoth {α : Type} (p : α → Bool) (xs : List α) : IsTrim p xs (trimBoth p xs) := by
  let back := ((xs.dropWhile p).reverse.takeWhile p).reverse
  have hcut : xs.dropWhile p = trimBoth p xs ++ back := by
    rw [trimBoth, ← List.reverse_append, List.takeWhile_append_dropWhile, List.reverse_reverse]
  have htaken (ys : List α) : ∀ x ∈ ys.takeWhile p, p x = true :=
    List.all_eq_true.mp List.all_takeWhile
  refine ⟨⟨xs.takeWhile p, back, ?_, htaken xs, fun x hx => ?_⟩, fun x hx => ?_, fun x hx => ?_⟩
  · rw [List.append_assoc, ← hcut, List.takeWhile_append_dropWhile]
  · exact htaken _ x (List.mem_reverse.mp hx)
  · refine head_dropWhile p xs x ?_
    rw [hcut, List.head?_append, Option.mem_def.mp hx]
    rfl
  · rw [trimBoth, List.getLast?_reverse] at hx
    exact head_dropWhile p _ x hx

theorem trimBoth_eq_iff {α : Type} {p : α → Bool} {xs core : List α} :
    trimBoth p xs = core ↔ IsTrim p xs core := by
  constructor
  · rintro rfl
    exact isTrim_trimBoth p xs
  · rintro ⟨⟨front, back, rfl, hfront, hback⟩, hhead, hlast⟩
    exact trimBoth_append front back hfront hback hhead hlast

end Mailroom.Text
