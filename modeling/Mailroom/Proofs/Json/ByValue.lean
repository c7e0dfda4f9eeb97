import Mailroom.Proofs.Json.Record

/-!
# Reading by way of the value

A document can be read as it is, or its value can be read, in which a repeated name keeps its last
value. If it has a value, both ways agree except for records that give a field twice.
-/

namespace Mailroom.Json.Document

variable {α σ : Type}

-- ---------------------------------------------------------------------------
-- Fields that are given once
-- ---------------------------------------------------------------------------

def itemsOnce (once : Document → Bool) : Document → Bool
  | .array items _ => items.all once
  | _ => true

/-- Whether a record gives its fields once, and so do the records in its fields. -/
def fieldsOnce (names : List String) (once : String → Document → Bool) : Document → Bool
  | .object members _ =>
    decide ((named names members).map Prod.fst).Nodup &&
      (named names members).all fun field => once field.1 field.2
  | .array items _ => (names.zip items).all fun field => once field.1 field.2
  | _ => true

/-- From a document that has a value the same is read as from the value, but only if fields are
given once. -/
def Agree (read : Document → Result α) (once : Document → Bool) : Prop :=
  ∀ ⦃depth d v⦄, d.value depth = .ok v → ∀ a, read d = .ok a ↔ read (ofJson v) = .ok a ∧ once d

-- ---------------------------------------------------------------------------
-- Values
-- ---------------------------------------------------------------------------

section

variable {x y : Result α} {p q : Prop}

theorem bind_iff {f g : α → Result σ} {b : σ} (hx : ∀ a, x = .ok a ↔ y = .ok a ∧ q)
    (hf : ∀ a, f a = .ok b ↔ g a = .ok b ∧ p) :
    (x >>= f) = .ok b ↔ (y >>= g) = .ok b ∧ q ∧ p := by
  have hbind (x : Result α) (f : α → Result σ) :
      (x >>= f) = .ok b ↔ ∃ a, x = .ok a ∧ f a = .ok b := by
    cases x <;> simp [Bind.bind, Except.bind]
  simp only [hbind, hx, hf]
  constructor
  · rintro ⟨a, ⟨hread, hq⟩, hg, hp⟩
    exact ⟨⟨a, hread, hg⟩, hq, hp⟩
  · rintro ⟨⟨a, hread, hg⟩, hq, hp⟩
    exact ⟨a, ⟨hread, hq⟩, hg, hp⟩

theorem bind_same_iff (hx : ∀ a, x = .ok a ↔ y = .ok a ∧ q) (f : α → Result σ) (b : σ) :
    (x >>= f) = .ok b ↔ (y >>= f) = .ok b ∧ q := by
  have h := bind_iff hx (f := f) (b := b) fun _ => (and_iff_left trivial).symm
  rwa [and_true] at h

end

namespace Agree

variable {read : Document → Result α} {once : Document → Bool}

theorem of_scalar (harray : ∀ items ending a, read (.array items ending) ≠ .ok a)
    (hobject : ∀ members ending a, read (.object members ending) ≠ .ok a) :
    Agree read fun _ => true := by
  intro depth d v h a
  cases d with
  | null | bool | string =>
    cases h
    simp [ofJson]
  | number n =>
    obtain rfl := value_number h
    simp [ofJson]
  | array items ending =>
    obtain ⟨-, values, -, -, rfl⟩ := value_array h
    simp [ofJson, harray]
  | object members ending =>
    obtain ⟨-, values, -, -, rfl⟩ := value_object h
    simp [ofJson, hobject]
  | unpaired | broken => cases h

theorem string : Agree asString fun _ => true :=
  of_scalar (fun _ _ _ h => by cases h) fun _ _ _ h => by cases h

theorem bool : Agree asBool fun _ => true :=
  of_scalar (fun _ _ _ h => by cases h) fun _ _ _ h => by cases h

theorem natural : Agree asNatural fun _ => true :=
  of_scalar (fun _ _ _ h => by cases h) fun _ _ _ h => by cases h

theorem bind (h : Agree read once) (f : α → Result σ) : Agree (fun d => read d >>= f) once :=
  fun _ _ _ hv => bind_same_iff (h hv) f

theorem of_eq {same : Document → Bool} (h : Agree read once) (hsame : ∀ d, same d = once d) :
    Agree read same :=
  fun _ _ _ hv a => hsame _ ▸ h hv a

theorem option (h : Agree read once) (hnull : once .null = true) :
    Agree (asOption read) once := by
  have hsome {d : Document} (hd : d ≠ .null) :
      asOption read d = read d >>= fun a => .ok (some a) := by
    cases d <;> trivial
  intro depth d v hv a
  by_cases hd : d = .null
  · subst hd
    cases hv
    simp [ofJson, asOption, hnull]
  · have hj : ofJson v ≠ .null := by
      cases v with
      | null => exact absurd (eq_null_of_value hv) hd
      | _ => simp [ofJson]
    rw [hsome hd, hsome hj]
    exact h.bind (fun a => .ok (some a)) hv a

theorem mapM_iff (h : Agree read once) {depth : Nat} {items : List Document} {values : List Json}
    (hv : itemValues depth items = .ok values) (xs : List α) :
    items.mapM read = .ok xs ↔ (ofItems values).mapM read = .ok xs ∧ items.all once := by
  induction items generalizing values xs with
  | nil =>
    cases hv
    simp [ofItems]
  | cons item rest ih =>
    obtain ⟨first, later, hfirst, hlater, rfl⟩ := itemValues_cons hv
    rw [ofItems, List.mapM_cons, List.mapM_cons, List.all_cons, Bool.and_eq_true]
    exact bind_iff (h hfirst) fun x => bind_same_iff (ih hlater) _ xs

theorem list (h : Agree read once) : Agree (asList read) (itemsOnce once) := by
  have hread (items : List Document) : asList read (.array items none) = items.mapM read := by
    rw [asList]
    cases items.mapM read <;> rfl
  intro depth d v hv a
  cases d with
  | array items ending =>
    obtain ⟨room, values, rfl, hvalues, rfl⟩ := value_array hv
    rw [ofJson, hread, hread]
    exact h.mapM_iff hvalues a
  | null | bool | string =>
    cases hv
    simp [ofJson, asList]
  | number n =>
    obtain rfl := value_number hv
    simp [ofJson, asList]
  | object members ending =>
    obtain ⟨room, values, rfl, -, rfl⟩ := value_object hv
    simp [ofJson, asList]
  | unpaired | broken => cases hv

end Agree

-- ---------------------------------------------------------------------------
-- Records
-- ---------------------------------------------------------------------------

section

variable {shape : Shape σ} {names : List String} {once : String → Document → Bool}

theorem readItems_iff
    (h : ∀ name ∈ names, ∀ record, Agree (shape.set record name) (once name)) {depth : Nat}
    {items : List Document} {values : List Json} (hv : itemValues depth items = .ok values)
    (record after : σ) : readItems shape record names items = .ok after ↔
      readItems shape record names (ofItems values) = .ok after ∧
        (names.zip items).all fun field => once field.1 field.2 := by
  induction items generalizing names values record with
  | nil =>
    cases hv
    simp [ofItems, readItems]
  | cons item rest ih =>
    obtain ⟨first, later, hfirst, hlater, rfl⟩ := itemValues_cons hv
    cases names with
    | nil => simp [ofItems, readItems]
    | cons name names =>
      obtain ⟨hname, hnames⟩ := List.forall_mem_cons.mp h
      rw [ofItems, readItems, readItems, List.zip_cons_cons, List.all_cons, Bool.and_eq_true]
      exact bind_iff (hname record hfirst) fun next => ih hnames hlater next

theorem filter_insert {done : List (String × Json)} {name : String} (h : name ∉ names) (v : Json) :
    (insert done name v).filter (fun m => names.contains m.1) =
      done.filter fun m => names.contains m.1 := by
  have hlast : [(name, v)].filter (fun m => names.contains m.1) = [] :=
    List.filter_cons_of_neg (by simp [h])
  rw [insert, List.filter_append, List.filter_filter, hlast, List.append_nil]
  refine List.filter_congr fun m _ => ?_
  by_cases hm : m.1 = name
  · simp [hm, h]
  · simp [hm]

theorem setAll_named_iff
    (h : ∀ name ∈ names, ∀ record, Agree (shape.set record name) (once name)) {depth : Nat}
    {members : List (Key × Document)} {done values : List (String × Json)}
    (hv : memberValues depth done members = .ok values)
    (hnodup : ((named names members).map Prod.fst).Nodup)
    (hfresh : ∀ field ∈ named names members, field.1 ∉ done.map Prod.fst) :
    ∃ found, values.filter (fun m => names.contains m.1) =
        done.filter (fun m => names.contains m.1) ++ found ∧
      ∀ record after, shape.setAll record (named names members) = .ok after ↔
        shape.setAll record (fields found) = .ok after ∧
          (named names members).all fun field => once field.1 field.2 := by
  induction members generalizing done with
  | nil =>
    cases hv
    exact ⟨[], by simp, by simp [named, fields, Shape.setAll]⟩
  | cons m rest ih =>
    obtain ⟨key, item⟩ := m
    obtain ⟨name, v, rfl, hitem, hrest⟩ := memberValues_cons hv
    by_cases hknown : names.contains name = true
    · rw [named, if_pos hknown] at hnodup hfresh ⊢
      rw [List.map_cons, List.nodup_cons] at hnodup
      obtain ⟨hname, hfresh⟩ := List.forall_mem_cons.mp hfresh
      rw [insert_of_not_mem hname] at hrest
      have hlater : ∀ field ∈ named names rest, field.1 ∉ (done ++ [(name, v)]).map Prod.fst := by
        intro field hfield hold
        rw [List.map_append, List.mem_append] at hold
        rcases hold with hold | hold
        · exact hfresh field hfield hold
        · obtain rfl := List.mem_singleton.mp hold
          exact hnodup.1 (List.mem_map.mpr ⟨field, hfield, rfl⟩)
      have hlast : [(name, v)].filter (fun m => names.contains m.1) = [(name, v)] :=
        List.filter_cons_of_pos hknown
      obtain ⟨found, hfilter, hset⟩ := ih hrest hnodup.2 hlater
      refine ⟨(name, v) :: found, ?_, fun record after => ?_⟩
      · rw [hfilter, List.filter_append, List.append_assoc, hlast]
        rfl
      · rw [List.all_cons, Bool.and_eq_true]
        exact bind_iff (h name (List.contains_iff_mem.mp hknown) record hitem) fun next =>
          hset next after
    · rw [named, if_neg hknown] at hnodup hfresh ⊢
      have hunknown : name ∉ names := fun hname => hknown (List.contains_iff_mem.mpr hname)
      have hlater : ∀ field ∈ named names rest, field.1 ∉ (insert done name v).map Prod.fst := by
        intro field hfield hold
        obtain ⟨m, hm, hsame⟩ := List.mem_map.mp hold
        rcases mem_insert hm with hm | rfl
        · exact hfresh field hfield (hsame ▸ List.mem_map_of_mem hm)
        · exact hunknown ((show name = field.1 from hsame) ▸ mem_names_of_mem_named hfield)
      obtain ⟨found, hfilter, hset⟩ := ih hrest hnodup hlater
      rw [filter_insert hunknown] at hfilter
      exact ⟨found, hfilter, hset⟩

theorem readMembers_iff
    (h : ∀ name ∈ shape.names, ∀ record, Agree (shape.set record name) (once name)) {depth : Nat}
    {members : List (Key × Document)} {values : List (String × Json)}
    (hv : memberValues depth [] members = .ok values) (start a : σ) :
    readMembers shape start [] members = .ok a ↔
      asRecord shape start (ofJson (.object values)) = .ok a ∧
        ((named shape.names members).map Prod.fst).Nodup ∧
        (named shape.names members).all fun field => once field.1 field.2 := by
  rw [readMembers_eq_ok_iff (Sound.of_memberValues hv),
    asRecord_object_eq_ok_iff (nodup_memberValues (by simp) hv)]
  constructor
  · rintro ⟨hnodup, -, hset⟩
    obtain ⟨found, hfilter, hiff⟩ := setAll_named_iff h hv hnodup (by simp)
    obtain ⟨hvalues, honce⟩ := (hiff start a).mp hset
    rw [hfilter]
    exact ⟨hvalues, hnodup, honce⟩
  · rintro ⟨hvalues, hnodup, honce⟩
    obtain ⟨found, hfilter, hiff⟩ := setAll_named_iff h hv hnodup (by simp)
    rw [hfilter] at hvalues
    exact ⟨hnodup, by simp, (hiff start a).mpr ⟨hvalues, honce⟩⟩

theorem length_ofItems {depth : Nat} {items : List Document} {values : List Json}
    (hv : itemValues depth items = .ok values) : (ofItems values).length = items.length := by
  induction items generalizing values with
  | nil =>
    cases hv
    rfl
  | cons item rest ih =>
    obtain ⟨first, later, -, hlater, rfl⟩ := itemValues_cons hv
    simp [ofItems, ih hlater]

theorem Agree.record
    (h : ∀ name ∈ shape.names, ∀ record, Agree (shape.set record name) (once name)) (start : σ) :
    Agree (asRecord shape start) (fieldsOnce shape.names once) := by
  intro depth d v hv a
  cases d with
  | object members ending =>
    obtain ⟨room, values, rfl, hvalues, rfl⟩ := value_object hv
    have hread : asRecord shape start (.object members none) =
        readMembers shape start [] members := by
      rw [asRecord]
      cases readMembers shape start [] members <;> rfl
    rw [hread, fieldsOnce, Bool.and_eq_true, decide_eq_true_iff]
    exact readMembers_iff h hvalues start a
  | array items ending =>
    obtain ⟨room, values, rfl, hvalues, rfl⟩ := value_array hv
    have hread (items : List Document) : asRecord shape start (.array items none) =
        readItems shape start shape.names items >>= fun record =>
          if items.length < shape.required then .error .mismatch else .ok record := by
      rw [asRecord]
      cases readItems shape start shape.names items <;> rfl
    rw [ofJson, hread, hread, fieldsOnce, length_ofItems hvalues]
    exact bind_same_iff (readItems_iff h hvalues start) _ a
  | null | bool | string =>
    cases hv
    simp [ofJson, asRecord]
  | number n =>
    obtain rfl := value_number hv
    simp [ofJson, asRecord]
  | unpaired | broken => cases hv

end

end Mailroom.Json.Document
