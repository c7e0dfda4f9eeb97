import Mailroom.Store.Table

/-!
# Rows and their ids

The entries of a table are what its ids stand for, in the order of the ids. Changing rows one
after the other changes each row by the functions meant for it.
-/

namespace Mailroom.Store.Table

variable {α : Type}

-- ---------------------------------------------------------------------------
-- Entries
-- ---------------------------------------------------------------------------

theorem mem_number {start : Int} {rows : List α} {e : Int × α} :
    e ∈ number start rows ↔ ∃ k : Nat, e.1 = start + k ∧ rows[k]? = some e.2 := by
  induction rows generalizing start with
  | nil => simp [number]
  | cons row rows ih =>
    rw [number, List.mem_cons, ih]
    constructor
    · rintro (rfl | ⟨k, hk, hrow⟩)
      · exact ⟨0, by simp, rfl⟩
      · exact ⟨k + 1, by omega, by simpa using hrow⟩
    · rintro ⟨k, hk, hrow⟩
      cases k with
      | zero =>
        left
        simp only [List.getElem?_cons_zero, Option.some.injEq] at hrow
        exact Prod.ext (by simpa using hk) hrow.symm
      | succ k => exact .inr ⟨k, by omega, by simpa using hrow⟩

theorem mem_entries {t : Table α} {e : Int × α} : e ∈ t.entries ↔ t.get? e.1 = some e.2 := by
  rw [entries, mem_number]
  unfold get? position?
  constructor
  · rintro ⟨k, hk, hrow⟩
    have hpos : 0 < e.1 := by omega
    have hk' : e.1.toNat - 1 = k := by omega
    simpa [hpos, hk'] using hrow
  · intro h
    by_cases hpos : 0 < e.1
    · exact ⟨e.1.toNat - 1, by omega, by simpa [hpos] using h⟩
    · simp [hpos] at h

theorem pairwise_number (start : Int) (rows : List α) :
    (number start rows).Pairwise fun a b => a.1 < b.1 := by
  induction rows generalizing start with
  | nil => exact .nil
  | cons row rows ih =>
    refine .cons ?_ (ih (start + 1))
    intro e he
    obtain ⟨k, hk, -⟩ := mem_number.mp he
    show start < e.1
    omega

theorem pairwise_entries (t : Table α) : t.entries.Pairwise fun a b => a.1 < b.1 :=
  pairwise_number 1 t.rows

theorem number_append (start : Int) (rows more : List α) :
    number start (rows ++ more) = number start rows ++ number (start + rows.length) more := by
  induction rows generalizing start with
  | nil => simp [number]
  | cons row rows ih =>
    rw [List.cons_append, number, ih, number, List.length_cons, List.cons_append]
    congr 3
    omega

theorem entries_insert (t : Table α) (row : α) :
    (t.insert row).2.entries = t.entries ++ [((t.insert row).1, row)] := by
  simp only [entries, insert, number_append, number]
  congr 3
  omega

theorem get?_insert_new (t : Table α) (row : α) : t.get? (t.insert row).1 = none := by
  simp [insert, get?, position?]

theorem get?_of_prefix {t u : Table α} (h : t.rows <+: u.rows) {id : Int} {row : α}
    (hrow : t.get? id = some row) : u.get? id = some row := by
  obtain ⟨i, hi, hget⟩ := Option.bind_eq_some_iff.mp hrow
  refine Option.bind_eq_some_iff.mpr ⟨i, hi, ?_⟩
  obtain ⟨more, hmore⟩ := h
  rw [← hmore, List.getElem?_append_left (List.getElem?_eq_some_iff.mp hget).1, hget]

-- ---------------------------------------------------------------------------
-- Changes of rows
-- ---------------------------------------------------------------------------

theorem get?_modify_self (t : Table α) (id : Int) (f : α → α) :
    (t.modify id f).get? id = (t.get? id).map f := by
  rw [get?_modify, if_pos rfl]

theorem get?_modify_of_ne (t : Table α) {id other : Int} (f : α → α) (h : other ≠ id) :
    (t.modify id f).get? other = t.get? other := by
  rw [get?_modify, if_neg h]

theorem modify_same (t : Table α) (id : Int) : t.modify id (fun row => row) = t := by
  unfold modify
  split
  · exact congrArg mk (List.modify_id _ _)
  · rfl

theorem modify_modify (t : Table α) (id : Int) (f g : α → α) :
    (t.modify id f).modify id g = t.modify id fun row => g (f row) := by
  unfold modify
  cases position? id with
  | none => rfl
  | some i => exact congrArg mk (List.modify_modify_eq f g i t.rows)

theorem size_modify (t : Table α) (id : Int) (f : α → α) : (t.modify id f).size = t.size := by
  unfold modify
  split
  · exact List.length_modify f _ _
  · rfl

theorem map_rows_modify {β : Type} (t : Table α) (id : Int) {f : α → α} {view : α → β}
    (h : ∀ row, view (f row) = view row) : (t.modify id f).rows.map view = t.rows.map view := by
  unfold modify
  split
  · next i _ =>
    refine List.ext_getElem? fun j => ?_
    rw [List.getElem?_map, List.getElem?_map, List.getElem?_modify]
    by_cases hj : i = j <;> cases t.rows[j]? <;> simp [hj, h]
  · rfl

theorem number_modify (start : Int) (rows : List α) (i : Nat) (f : α → α) :
    number start (rows.modify i f) =
      (number start rows).map fun e => if e.1 = start + i then (e.1, f e.2) else e := by
  induction rows generalizing start i with
  | nil => simp [number]
  | cons row rows ih =>
    cases i with
    | zero =>
      have hlater : ∀ e ∈ number (start + 1) rows,
          (if e.1 = start + (0 : Nat) then (e.1, f e.2) else e) = e := by
        intro e he
        obtain ⟨k, hk, -⟩ := mem_number.mp he
        rw [if_neg (by omega)]
      rw [List.modify_zero_cons, number, number, List.map_cons, List.map_congr_left hlater,
        List.map_id', if_pos (by omega)]
    | succ i =>
      have hsame : start + 1 + (i : Int) = start + ((i + 1 : Nat) : Int) := by omega
      rw [List.modify_succ_cons, number, ih, number, List.map_cons, hsame, if_neg (by omega)]

theorem entries_modify (t : Table α) (id : Int) (f : α → α) :
    (t.modify id f).entries = t.entries.map fun e => if e.1 = id then (e.1, f e.2) else e := by
  unfold modify position?
  split
  · next i hi =>
    split at hi
    · next hpos =>
      have hid : 1 + (i : Int) = id := by
        have := Option.some.inj hi
        omega
      rw [entries, number_modify, hid, entries]
    · cases hi
  · next hi =>
    have hpos : ¬ 0 < id := by
      intro hpos
      simp [hpos] at hi
    have hsame : ∀ e ∈ t.entries, (if e.1 = id then (e.1, f e.2) else e) = e := by
      intro e he
      obtain ⟨k, hk, -⟩ := mem_number.mp he
      rw [if_neg (by omega)]
    rw [List.map_congr_left hsame, List.map_id']

theorem isSome_get?_modify (t : Table α) (id other : Int) (f : α → α) :
    ((t.modify id f).get? other).isSome = (t.get? other).isSome := by
  rw [get?_modify]
  split <;> simp

theorem isSome_get?_of_map_eq {β : Type} {t u : Table α} {view : α → β}
    (h : t.rows.map view = u.rows.map view) (id : Int) : (t.get? id).isSome = (u.get? id).isSome := by
  have hview (t : Table α) : (t.get? id).isSome =
      ((position? id).bind fun i => (t.rows.map view)[i]?).isSome := by
    rw [get?]
    cases position? id <;> simp
  rw [hview t, hview u, h]

end Mailroom.Store.Table
