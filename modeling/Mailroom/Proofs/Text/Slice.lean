import Mailroom.Proofs.Text.Cut

/-!
# Ranges of a sequence

A range is given by the places where it starts and stops, and there is one only if it is not
inverted and lies in the sequence. Pieces that stand in a sequence one after the other, with
anything between them, are ranges whose ends ascend.
-/

namespace Mailroom.Text

variable {α β : Type}

-- ---------------------------------------------------------------------------
-- Checked ranges
-- ---------------------------------------------------------------------------

def slice? (xs : List α) (start stop : Nat) : Option (List α) :=
  if start ≤ stop ∧ stop ≤ xs.length then some ((xs.take stop).drop start) else none

theorem slice?_append (before piece after : List α) :
    slice? (before ++ piece ++ after) before.length (before.length + piece.length) =
      some piece := by
  rw [slice?, if_pos ⟨Nat.le_add_right .., by simp⟩, List.append_assoc, ← List.append_assoc,
    ← List.length_append, List.take_left, List.drop_left]

theorem slice?_eq_some_iff {xs piece : List α} {start stop : Nat} :
    slice? xs start stop = some piece ↔
      ∃ before after, xs = before ++ piece ++ after ∧ before.length = start ∧
        before.length + piece.length = stop := by
  constructor
  · intro h
    obtain ⟨⟨hle, hlen⟩, hpiece⟩ := Option.ite_none_right_eq_some.mp h
    refine ⟨xs.take start, xs.drop stop, ?_, List.length_take_of_le (Nat.le_trans hle hlen), ?_⟩
    · have htake : xs.take start = (xs.take stop).take start := by
        rw [List.take_take, Nat.min_eq_left hle]
      rw [← Option.some.inj hpiece, htake, List.take_append_drop, List.take_append_drop]
    · rw [← Option.some.inj hpiece]
      simp only [List.length_take, List.length_drop]
      omega
  · rintro ⟨before, after, rfl, rfl, rfl⟩
    exact slice?_append before piece after

theorem slice?_shift (before xs : List α) (start stop : Nat) :
    slice? (before ++ xs) (before.length + start) (before.length + stop) =
      slice? xs start stop := by
  simp [slice?, List.take_length_add_append, List.drop_length_add_append]

def find? [BEq α] (part : List α) : List α → Option Nat
  | [] => if part.isEmpty then some 0 else none
  | x :: xs => if part.isPrefixOf (x :: xs) then some 0 else (find? part xs).map (· + 1)

theorem find?_eq_cut [BEq α] (part xs : List α) :
    find? part xs = (cut part xs).map fun p => p.1.length := by
  induction xs with
  | nil => simp only [find?, cut]; split <;> rfl
  | cons x xs ih =>
    simp only [find?, cut]
    split
    · rfl
    · rw [ih, Option.map_map, Option.map_map]
      rfl

-- ---------------------------------------------------------------------------
-- Pieces one after the other
-- ---------------------------------------------------------------------------

/-- The pieces stand in the sequence in their order, and no two of them overlap. -/
inductive Within : List (List α) → List α → Prop
  | nil (rest : List α) : Within [] rest
  | cons (gap piece : List α) {pieces : List (List α)} {rest : List α} (h : Within pieces rest) :
      Within (piece :: pieces) (gap ++ piece ++ rest)

namespace Within

variable {xs ys : List α} {pieces others : List (List α)}

theorem behind (before : List α) (h : Within pieces xs) : Within pieces (before ++ xs) := by
  cases h with
  | nil => exact .nil _
  | cons gap piece h => simpa only [List.append_assoc] using Within.cons (before ++ gap) piece h

theorem append (h : Within pieces xs) (ho : Within others ys) :
    Within (pieces ++ others) (xs ++ ys) := by
  induction h with
  | nil rest => exact ho.behind rest
  | cons gap piece h ih => simpa only [List.append_assoc, List.cons_append] using ih.cons gap piece

theorem before (after : List α) (h : Within pieces xs) : Within pieces (xs ++ after) := by
  simpa only [List.append_nil] using h.append (.nil after)

theorem single (h : ys <:+: xs) : Within [ys] xs := by
  obtain ⟨gap, after, rfl⟩ := h
  exact .cons gap ys (.nil after)

theorem mono (h : xs <:+: ys) (hw : Within pieces xs) : Within pieces ys := by
  obtain ⟨gap, after, rfl⟩ := h
  exact (hw.behind gap).before after

theorem flatMap {f : List α → List (List α)} (h : Within pieces xs)
    (hf : ∀ piece ∈ pieces, Within (f piece) piece) : Within (pieces.flatMap f) xs := by
  induction h with
  | nil rest => exact .nil rest
  | cons gap piece h ih =>
    obtain ⟨hpiece, hrest⟩ := List.forall_mem_cons.mp hf
    rw [List.append_assoc, List.flatMap_cons]
    exact (hpiece.append (ih hrest)).behind gap

end Within

def ends (places : List (Nat × Nat)) (length : Nat) : List Nat :=
  places.flatMap (fun place => [place.1, place.2]) ++ [length]

theorem ends_cons (place : Nat × Nat) (places : List (Nat × Nat)) (length : Nat) :
    ends (place :: places) length = place.1 :: place.2 :: ends places length := rfl

theorem ends_shift (k : Nat) (places : List (Nat × Nat)) (length : Nat) :
    ends (places.map fun place => (k + place.1, k + place.2)) (k + length) =
      (ends places length).map (k + ·) := by
  simp [ends, List.flatMap_map, List.map_flatMap]

theorem Within.exists_places {pieces : List (List α)} {xs : List α} (h : Within pieces xs) :
    ∃ places : List (Nat × Nat),
      places.map (fun place => slice? xs place.1 place.2) = pieces.map some ∧
      (ends places xs.length).Pairwise (· ≤ ·) := by
  induction h with
  | nil rest => exact ⟨[], rfl, List.pairwise_singleton ..⟩
  | @cons gap piece pieces rest h ih =>
    obtain ⟨places, hplaces, hends⟩ := ih
    let k := (gap ++ piece).length
    refine ⟨(gap.length, k) :: places.map fun place => (k + place.1, k + place.2), ?_, ?_⟩
    · have hfirst : slice? (gap ++ piece ++ rest) gap.length k = some piece := by
        rw [show k = gap.length + piece.length from List.length_append, slice?_append]
      have hlater : (places.map fun place => (k + place.1, k + place.2)).map
          (fun place => slice? (gap ++ piece ++ rest) place.1 place.2) = pieces.map some := by
        rw [← hplaces, List.map_map]
        exact List.map_congr_left fun place _ => slice?_shift (gap ++ piece) rest place.1 place.2
      rw [List.map_cons, List.map_cons, hfirst, hlater]
    · have hfirst : gap.length ≤ k := by simp [k]
      have hlater : ∀ stop ∈ (ends places rest.length).map (k + ·), k ≤ stop := by simp
      have hshift := hends.map (k + ·) fun a b hab => Nat.add_le_add_left hab k
      rw [List.length_append, ends_cons, ends_shift]
      refine .cons ?_ (.cons hlater hshift)
      exact List.forall_mem_cons.mpr ⟨hfirst, fun stop hstop =>
        Nat.le_trans hfirst (hlater stop hstop)⟩

end Mailroom.Text
