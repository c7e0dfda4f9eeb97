/-!
# Tables that only grow

Rows are kept in the order of their insertion. The first row has the id 1, and each
further row the id after that of the row before, so that ids need no place of their own.
-/

namespace Mailroom.Store

structure Table (α : Type) where
  rows : List α
  deriving DecidableEq, Repr

namespace Table

variable {α : Type}

def empty : Table α := ⟨[]⟩

def size (t : Table α) : Nat := t.rows.length

def position? (id : Int) : Option Nat := if 0 < id then some (id.toNat - 1) else none

def get? (t : Table α) (id : Int) : Option α := (position? id).bind fun i => t.rows[i]?

/-- Adds a row. Its id is the number of rows it makes. -/
def insert (t : Table α) (row : α) : Int × Table α :=
  ((t.rows.length + 1 : Nat), ⟨t.rows ++ [row]⟩)

def modify (t : Table α) (id : Int) (f : α → α) : Table α :=
  match position? id with
  | some i => ⟨t.rows.modify i f⟩
  | none => t

def number (id : Int) : List α → List (Int × α)
  | [] => []
  | row :: rest => (id, row) :: number (id + 1) rest

def entries (t : Table α) : List (Int × α) := number 1 t.rows

def find? (t : Table α) (p : α → Bool) : Option (Int × α) := t.entries.find? fun e => p e.2

theorem get?_insert_self (t : Table α) (row : α) :
    (t.insert row).2.get? (t.insert row).1 = some row := by
  simp [insert, get?, position?]

theorem get?_insert_of_ne (t : Table α) (row : α) (id : Int) (h : id ≠ (t.insert row).1) :
    (t.insert row).2.get? id = t.get? id := by
  simp only [insert, get?, position?] at h ⊢
  split
  · next hid =>
    have hne : id.toNat - 1 ≠ t.rows.length := by omega
    simp only [Option.bind_some, List.getElem?_append, List.getElem?_singleton]
    by_cases hl : id.toNat - 1 < t.rows.length
    · simp [hl]
    · have hzero : id.toNat - 1 - t.rows.length ≠ 0 := by omega
      simp [hl, hzero]
  · rfl

theorem get?_modify (t : Table α) (id other : Int) (f : α → α) :
    (t.modify id f).get? other = if other = id then (t.get? other).map f else t.get? other := by
  unfold modify get? position?
  by_cases hid : 0 < id <;> by_cases ho : 0 < other <;> simp [hid, ho, List.getElem?_modify]
  · by_cases h : other = id
    · simp [h]
    · have : ¬ id.toNat - 1 = other.toNat - 1 := by omega
      simp [h, this]
  · by_cases h : other = id
    · omega
    · simp [h]

end Table

end Mailroom.Store
