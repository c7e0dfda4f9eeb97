import Mailroom.Proofs.Json.Written

/-!
# Records

In an object that can be read as a whole, reading a record sets its fields one after the other,
and fails if one of them is there twice. Other members count for nothing. So a record is read back
from an object that gives its fields in order.
-/

namespace Mailroom.Json.Document

variable {σ : Type} {shape : Shape σ} {record after : σ}

-- ---------------------------------------------------------------------------
-- Setting fields
-- ---------------------------------------------------------------------------

def Shape.setAll (shape : Shape σ) (record : σ) (fields : List (String × Document)) : Result σ :=
  fields.foldlM (fun record field => shape.set record field.1 field.2) record

theorem Shape.setAll_cons (field : String × Document) (fields : List (String × Document)) :
    shape.setAll record (field :: fields) =
      (shape.set record field.1 field.2).bind fun next => shape.setAll next fields := rfl

theorem Shape.setAll_cons_eq_ok {field : String × Document} {fields : List (String × Document)} :
    shape.setAll record (field :: fields) = .ok after ↔
      ∃ next, shape.set record field.1 field.2 = .ok next ∧
        shape.setAll next fields = .ok after := by
  rw [setAll_cons]
  cases shape.set record field.1 field.2 <;> simp [Except.bind]

def named (names : List String) : List (Key × Document) → List (String × Document)
  | [] => []
  | (.text name, d) :: rest =>
    if names.contains name then (name, d) :: named names rest else named names rest
  | _ :: rest => named names rest

theorem mem_names_of_mem_named {names : List String} {members : List (Key × Document)}
    {field : String × Document} (h : field ∈ named names members) : field.1 ∈ names := by
  induction members with
  | nil => cases h
  | cons m rest ih =>
    obtain ⟨key, d⟩ := m
    cases key with
    | text name =>
      rw [named] at h
      split at h
      · next hname =>
        rcases List.mem_cons.mp h with rfl | h
        · exact List.contains_iff_mem.mp hname
        · exact ih h
      · exact ih h
    | unpaired => exact ih h
    | broken => exact ih h

def Sound (members : List (Key × Document)) : Prop :=
  ∀ m ∈ members, (∃ name, m.1 = .text name) ∧ m.2.skip = .ok ()

theorem Sound.of_memberValues {depth : Nat} {members : List (Key × Document)}
    {done values : List (String × Json)} (h : memberValues depth done members = .ok values) :
    Sound members := by
  induction members generalizing done with
  | nil => simp [Sound]
  | cons m rest ih =>
    obtain ⟨key, item⟩ := m
    obtain ⟨name, v, rfl, hv, hrest⟩ := memberValues_cons h
    exact List.forall_mem_cons.mpr ⟨⟨⟨name, rfl⟩, skip_of_value item hv⟩, ih hrest⟩

theorem sound_ofMembers (members : List (String × Json)) : Sound (ofMembers members) := by
  induction members with
  | nil => simp [Sound, ofMembers]
  | cons m rest ih => exact List.forall_mem_cons.mpr ⟨⟨⟨m.1, rfl⟩, skip_ofJson m.2⟩, ih⟩

theorem readMembers_eq_ok_iff {members : List (Key × Document)} (h : Sound members)
    {seen : List String} : readMembers shape record seen members = .ok after ↔
      ((named shape.names members).map Prod.fst).Nodup ∧
        (∀ field ∈ named shape.names members, field.1 ∉ seen) ∧
        shape.setAll record (named shape.names members) = .ok after := by
  induction members generalizing record seen with
  | nil => simp [readMembers, named, Shape.setAll, pure, Except.pure]
  | cons m rest ih =>
    obtain ⟨⟨⟨name, hname⟩, hskip⟩, hrest⟩ := List.forall_mem_cons.mp h
    obtain ⟨key, d⟩ := m
    obtain rfl : key = .text name := hname
    rw [readMembers, named]
    split
    · rw [Shape.setAll_cons_eq_ok, List.map_cons, List.nodup_cons, List.forall_mem_cons]
      split
      · next hseen => simp [List.contains_iff_mem.mp hseen]
      · next hseen =>
        have hnot : name ∉ seen := fun hname => hseen (List.contains_iff_mem.mpr hname)
        constructor
        · intro hread
          cases hset : shape.set record name d with
          | error e =>
            rw [hset] at hread
            cases hread
          | ok next =>
            rw [hset] at hread
            obtain ⟨hnodup, hfresh, hlater⟩ := (ih hrest).mp hread
            refine ⟨⟨fun hmem => ?_, hnodup⟩, ⟨hnot, fun field hfield hold => ?_⟩, next, rfl,
              hlater⟩
            · obtain ⟨field, hfield, hsame⟩ := List.mem_map.mp hmem
              exact hfresh field hfield (hsame ▸ List.mem_cons_self)
            · exact hfresh field hfield (List.mem_cons_of_mem name hold)
        · rintro ⟨⟨hname, hnodup⟩, ⟨-, hfresh⟩, next, hset, hlater⟩
          rw [show shape.set record name d = .ok next from hset]
          refine (ih hrest).mpr ⟨hnodup, fun field hfield hold => ?_, hlater⟩
          rcases List.mem_cons.mp hold with hsame | hold
          · exact hname (List.mem_map.mpr ⟨field, hfield, hsame⟩)
          · exact hfresh field hfield hold
    · rw [show d.skip = .ok () from hskip]
      exact ih hrest

-- ---------------------------------------------------------------------------
-- Records of values
-- ---------------------------------------------------------------------------

def fields (members : List (String × Json)) : List (String × Document) :=
  members.map fun m => (m.1, ofJson m.2)

theorem named_ofMembers (names : List String) (members : List (String × Json)) :
    named names (ofMembers members) = fields (members.filter fun m => names.contains m.1) := by
  induction members with
  | nil => rfl
  | cons m rest ih =>
    rw [ofMembers, named, List.filter_cons]
    split
    · rw [ih]
      rfl
    · exact ih

theorem map_fst_fields (members : List (String × Json)) :
    (fields members).map Prod.fst = members.map Prod.fst := by
  simp [fields, Function.comp_def]

theorem asRecord_object_eq_ok_iff {members : List (String × Json)}
    (hnames : (members.map Prod.fst).Nodup) :
    asRecord shape record (ofJson (.object members)) = .ok after ↔
      shape.setAll record (fields (members.filter fun m => shape.names.contains m.1)) =
        .ok after := by
  have hread : asRecord shape record (ofJson (.object members)) =
      readMembers shape record [] (ofMembers members) := by
    rw [ofJson, asRecord]
    cases readMembers shape record [] (ofMembers members) <;> rfl
  rw [hread, readMembers_eq_ok_iff (sound_ofMembers members), named_ofMembers, map_fst_fields]
  simp only [List.not_mem_nil, not_false_eq_true, implies_true, true_and, and_iff_right_iff_imp]
  exact fun _ => hnames.sublist (List.filter_sublist.map _)

end Document

-- ---------------------------------------------------------------------------
-- Reading back
-- ---------------------------------------------------------------------------

structure Written {α : Type} (depth : Nat) (read : Document → Result α) (a : α) (j : Json) :
    Prop where
  writable : Writable depth j
  read : read (Document.ofJson j) = .ok a

open Document (ofJson asString asBool asNatural asOption asList asRecord Shape fields)

theorem as_eq_ok_iff {α : Type} {read : Document → Result α} {j : Json} {a : α} :
    as read j = .ok a ↔ read (ofJson j) = .ok a := by
  rw [as]
  cases read (ofJson j) with
  | error e => exact iff_of_false (fun h => by cases h) fun h => by cases h
  | ok b => exact Iff.rfl

namespace Written

variable {α : Type} {depth : Nat}

theorem string (s : String) : Written depth asString s (.string s) := ⟨.string s, rfl⟩

theorem bool (b : Bool) : Written depth asBool b (.bool b) := ⟨.bool b, rfl⟩

theorem natural {n : Nat} (h : n < Numeral.limit) : Written depth asNatural n (ofNat n) :=
  ⟨.number (Numeral.isInteger_ofNat h), rfl⟩

theorem some {read : Document → Result α} {a : α} {members : List (String × Json)}
    (h : Written depth read a (.object members)) :
    Written depth (asOption read) (some a) (.object members) :=
  ⟨h.writable, congrArg (Except.map Option.some) h.read⟩

theorem list {read : Document → Result α} {write : α → Json} {xs : List α}
    (h : ∀ x ∈ xs, Written depth read x (write x)) :
    Written (depth + 1) (asList read) xs (.array (xs.map write)) where
  writable := .array fun j hj => by
    obtain ⟨x, hx, rfl⟩ := List.mem_map.mp hj
    exact (h x hx).writable
  read := by
    have hitems : (Document.ofItems (xs.map write)).mapM read = .ok xs := by
      induction xs with
      | nil => rfl
      | cons x rest ih =>
        obtain ⟨hx, hrest⟩ := List.forall_mem_cons.mp h
        rw [List.map_cons, Document.ofItems, List.mapM_cons, hx.read, ih hrest]
        rfl
    rw [ofJson, asList, hitems]
    rfl

end Written

/-- Members that turn one record into another by setting fields in order, some of them left out. -/
inductive Sets {σ : Type} (shape : Shape σ) (depth : Nat) :
    (names : List String) → (record : σ) → List (String × Json) → (after : σ) → Prop
  | nil (record : σ) : Sets shape depth [] record [] record
  | absent {name : String} {names : List String} {record after : σ}
      {members : List (String × Json)} (later : Sets shape depth names record members after) :
      Sets shape depth (name :: names) record members after
  | value {name : String} {names : List String} {record next after : σ} {j : Json}
      {members : List (String × Json)} (writable : Writable depth j)
      (set : shape.set record name (ofJson j) = .ok next)
      (later : Sets shape depth names next members after) :
      Sets shape depth (name :: names) record ((name, j) :: members) after

namespace Sets

variable {σ α : Type} {shape : Shape σ} {depth : Nat} {name : String} {names : List String}
  {record after : σ} {members : List (String × Json)}

theorem field {read : Document → Result α} {a : α} {j : Json} (f : α → σ)
    (h : Written depth read a j)
    (hset : shape.set record name (ofJson j) = (read (ofJson j)).map f)
    (later : Sets shape depth names (f a) members after) :
    Sets shape depth (name :: names) record ((name, j) :: members) after := by
  refine .value h.writable ?_ later
  rw [hset, h.read]
  rfl

theorem optional {s : Option String} (f : Option String → σ) (hnone : record = f none)
    (hset : ∀ s, shape.set (f none) name (.string s) = .ok (f (some s)))
    (later : Sets shape depth names (f s) members after) :
    Sets shape depth (name :: names) record (member? name s ++ members) after := by
  subst hnone
  cases s with
  | none => exact .absent later
  | some s => exact .value (.string s) (hset s) later

theorem sublist (h : Sets shape depth names record members after) :
    (members.map Prod.fst).Sublist names := by
  induction h with
  | nil => exact .slnil
  | absent _ ih => exact .cons _ ih
  | value _ _ _ ih => exact .cons_cons _ ih

theorem writable (h : Sets shape depth names record members after) :
    ∀ m ∈ members, Writable depth m.2 := by
  induction h with
  | nil => intro m hm; cases hm
  | absent _ ih => exact ih
  | value hj _ _ ih => exact List.forall_mem_cons.mpr ⟨hj, ih⟩

theorem setAll (h : Sets shape depth names record members after) :
    shape.setAll record (fields members) = .ok after := by
  induction h with
  | nil => rfl
  | absent _ ih => exact ih
  | value _ hset _ ih => exact Shape.setAll_cons_eq_ok.mpr ⟨_, hset, ih⟩

theorem written {start : σ} (hnames : shape.names.Nodup)
    (h : Sets shape depth shape.names start members record) :
    Written (depth + 1) (asRecord shape start) record (.object members) where
  writable := .object (hnames.sublist h.sublist) h.writable
  read := by
    rw [Document.asRecord_object_eq_ok_iff (hnames.sublist h.sublist), List.filter_eq_self.mpr]
    · exact h.setAll
    · exact fun m hm => List.contains_iff_mem.mpr (h.sublist.subset (List.mem_map_of_mem hm))

end Sets

end Mailroom.Json
