import Mailroom.Json.Document

/-!
# The values of documents

What has a value as a whole has no fault that is met when it is skipped, and its objects have
distinct names. The document of a value has no fault at all.
-/

namespace Mailroom.Json

namespace Document

-- ---------------------------------------------------------------------------
-- Members of an object
-- ---------------------------------------------------------------------------

section

variable {members done values : List (String × Json)} {name : String} {v : Json}

theorem insert_of_not_mem (h : name ∉ members.map Prod.fst) (v : Json) :
    insert members name v = members ++ [(name, v)] := by
  rw [insert, List.filter_eq_self.mpr]
  intro m hm
  simp only [decide_eq_true_eq]
  rintro rfl
  exact h (List.mem_map_of_mem hm)

theorem nodup_insert (h : (members.map Prod.fst).Nodup) (name : String) (v : Json) :
    ((insert members name v).map Prod.fst).Nodup := by
  rw [insert, List.map_append, List.nodup_append]
  refine ⟨h.sublist (List.filter_sublist.map _), by simp, ?_⟩
  rintro other hother _ hname rfl
  obtain ⟨m, hm, rfl⟩ := List.mem_map.mp hother
  obtain rfl : m.1 = name := by simpa using hname
  simp at hm

theorem mem_insert {m : String × Json} (h : m ∈ insert members name v) :
    m ∈ members ∨ m = (name, v) := by
  rw [insert, List.mem_append] at h
  exact h.imp (fun h => (List.mem_filter.mp h).1) List.mem_singleton.mp

variable {depth : Nat} {key : Key} {item : Document} {rest : List (Key × Document)}

theorem memberValues_cons (h : memberValues depth done ((key, item) :: rest) = .ok values) :
    ∃ name v, key = .text name ∧ item.value depth = .ok v ∧
      memberValues depth (insert done name v) rest = .ok values := by
  cases key with
  | text name =>
    rw [memberValues] at h
    cases hv : item.value depth with
    | error e =>
      rw [hv] at h
      cases h
    | ok v =>
      rw [hv] at h
      exact ⟨name, v, rfl, rfl, h⟩
  | unpaired => cases h
  | broken => cases h

theorem nodup_memberValues {members : List (Key × Document)} (hdone : (done.map Prod.fst).Nodup)
    (h : memberValues depth done members = .ok values) : (values.map Prod.fst).Nodup := by
  induction members generalizing done with
  | nil =>
    cases h
    exact hdone
  | cons m rest ih =>
    obtain ⟨name, v, -, -, hrest⟩ := memberValues_cons h
    exact ih (nodup_insert hdone name v) hrest

theorem mem_of_mem_memberValues {members : List (Key × Document)}
    (h : memberValues depth done members = .ok values) {m : String × Json} (hm : m ∈ values) :
    m ∈ done ∨ ∃ d, (.text m.1, d) ∈ members := by
  induction members generalizing done with
  | nil =>
    cases h
    exact .inl hm
  | cons first rest ih =>
    obtain ⟨key, item⟩ := first
    obtain ⟨name, v, rfl, -, hrest⟩ := memberValues_cons h
    rcases ih hrest with hdone | ⟨d, hd⟩
    · rcases mem_insert hdone with hdone | rfl
      · exact .inl hdone
      · exact .inr ⟨item, List.mem_cons_self⟩
    · exact .inr ⟨d, List.mem_cons_of_mem _ hd⟩

end

-- ---------------------------------------------------------------------------
-- Containers
-- ---------------------------------------------------------------------------

section

variable {depth : Nat} {v : Json} {ending : Option Fault}

theorem itemValues_cons {item : Document} {rest : List Document} {values : List Json}
    (h : itemValues depth (item :: rest) = .ok values) :
    ∃ first later, item.value depth = .ok first ∧ itemValues depth rest = .ok later ∧
      values = first :: later := by
  rw [itemValues] at h
  cases hfirst : item.value depth with
  | error e =>
    rw [hfirst] at h
    cases h
  | ok first =>
    cases hlater : itemValues depth rest with
    | error e =>
      rw [hfirst, hlater] at h
      cases h
    | ok later =>
      rw [hfirst, hlater] at h
      cases h
      exact ⟨first, later, rfl, rfl, rfl⟩

theorem value_number {n : Numeral} (h : (number n).value depth = .ok v) : v = .number n := by
  rw [value] at h
  split at h
  · cases h
  · exact (Except.ok.inj h).symm

theorem value_array {items : List Document} (h : (array items ending).value depth = .ok v) :
    ∃ room values, ending = none ∧ itemValues room items = .ok values ∧ v = .array values := by
  cases depth with
  | zero => cases h
  | succ room =>
    rw [value] at h
    cases hvalues : itemValues room items with
    | error e =>
      rw [hvalues] at h
      cases h
    | ok values =>
      rw [hvalues] at h
      cases ending with
      | some fault => cases h
      | none =>
        cases h
        exact ⟨room, values, rfl, hvalues, rfl⟩

theorem value_object {members : List (Key × Document)}
    (h : (object members ending).value depth = .ok v) :
    ∃ room values, ending = none ∧ memberValues room [] members = .ok values ∧
      v = .object values := by
  cases depth with
  | zero => cases h
  | succ room =>
    rw [value] at h
    cases hvalues : memberValues room [] members with
    | error e =>
      rw [hvalues] at h
      cases h
    | ok values =>
      rw [hvalues] at h
      cases ending with
      | some fault => cases h
      | none =>
        cases h
        exact ⟨room, values, rfl, hvalues, rfl⟩

theorem eq_null_of_value {d : Document} (h : d.value depth = .ok .null) : d = .null := by
  cases d with
  | null => rfl
  | number n => cases value_number h
  | array items ending =>
    obtain ⟨room, values, -, -, hsame⟩ := value_array h
    cases hsame
  | object members ending =>
    obtain ⟨room, values, -, -, hsame⟩ := value_object h
    cases hsame
  | _ => cases h

theorem nodup_of_value {d : Document} {members : List (String × Json)}
    (h : d.value depth = .ok (.object members)) : (members.map Prod.fst).Nodup := by
  cases d with
  | object written ending =>
    obtain ⟨room, values, -, hvalues, hsame⟩ := value_object h
    cases hsame
    exact nodup_memberValues (by simp) hvalues
  | array items ending =>
    obtain ⟨room, values, -, -, hsame⟩ := value_array h
    cases hsame
  | number n => cases value_number h
  | _ => cases h

end

-- ---------------------------------------------------------------------------
-- Skipping
-- ---------------------------------------------------------------------------

mutual

theorem skip_of_value : (d : Document) → {depth : Nat} → {v : Json} → d.value depth = .ok v →
    d.skip = .ok ()
  | .null, _, _, _ => rfl
  | .bool _, _, _, _ => rfl
  | .number _, _, _, _ => rfl
  | .string _, _, _, _ => rfl
  | .array items _, _, _, h => by
    obtain ⟨room, values, rfl, hvalues, -⟩ := value_array h
    rw [skip, skipItems_of_itemValues items hvalues]
    rfl
  | .object members _, _, _, h => by
    obtain ⟨room, values, rfl, hvalues, -⟩ := value_object h
    rw [skip, skipMembers_of_memberValues members hvalues]
    rfl

theorem skipItems_of_itemValues : (items : List Document) → {depth : Nat} → {values : List Json} →
    itemValues depth items = .ok values → skipItems items = .ok ()
  | [], _, _, _ => rfl
  | item :: rest, _, _, h => by
    obtain ⟨first, later, hfirst, hlater, -⟩ := itemValues_cons h
    rw [skipItems, skip_of_value item hfirst]
    exact skipItems_of_itemValues rest hlater

theorem skipMembers_of_memberValues : (members : List (Key × Document)) → {depth : Nat} →
    {done values : List (String × Json)} → memberValues depth done members = .ok values →
    skipMembers members = .ok ()
  | [], _, _, _, _ => rfl
  | (key, item) :: rest, _, _, _, h => by
    obtain ⟨name, v, rfl, hv, hrest⟩ := memberValues_cons h
    rw [skipMembers, skip_of_value item hv]
    · exact skipMembers_of_memberValues rest hrest
    · intro _ _ heq
      cases heq

end

mutual

theorem skip_ofJson : (j : Json) → (ofJson j).skip = .ok ()
  | .null => rfl
  | .bool _ => rfl
  | .number _ => rfl
  | .string _ => rfl
  | .array items => by
    rw [ofJson, skip, skipItems_ofItems items]
    rfl
  | .object members => by
    rw [ofJson, skip, skipMembers_ofMembers members]
    rfl

theorem skipItems_ofItems : (items : List Json) → skipItems (ofItems items) = .ok ()
  | [] => rfl
  | item :: rest => by
    rw [ofItems, skipItems, skip_ofJson item]
    exact skipItems_ofItems rest

theorem skipMembers_ofMembers : (members : List (String × Json)) →
    skipMembers (ofMembers members) = .ok ()
  | [] => rfl
  | (_, item) :: rest => by
    rw [ofMembers, skipMembers, skip_ofJson item]
    · exact skipMembers_ofMembers rest
    · intro _ _ heq
      cases heq

end

end Document

theorem isSome_get? {members : List (String × Json)} {name : String} :
    ((Json.object members).get? name).isSome = true ↔ name ∈ members.map Prod.fst := by
  rw [Json.get?, Option.isSome_map, List.find?_isSome, List.mem_map]
  simp

end Mailroom.Json
