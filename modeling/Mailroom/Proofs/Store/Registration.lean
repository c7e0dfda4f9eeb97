import Mathlib.Order.Bounds.Defs
import Mailroom.Proofs.Store.Identities
import Mailroom.Proofs.Text.Cut

/-!
# Registered domains and identities

Identities come into the tables with domains that exist, and none goes away. So a search finds the
first identity that is wanted, by id, and what is found for a recipient is the first identity with
the address or, without one, the first that takes all other mail of the recipient's domain.
-/

namespace Mailroom.Mail

theorem domainOf?_eq_some_iff {address domain : String} : domainOf? address = some domain ↔
    ∃ front name, address.toList = front ++ '@' :: name ∧ '@' ∉ front ∧ name ≠ [] ∧
      domain = String.ofList name := by
  unfold domainOf?
  constructor
  · intro h
    split at h
    · next front name hcut =>
      obtain ⟨hfront, haddress⟩ := Text.cut_singleton_eq_some_iff.mp hcut
      split at h
      · cases h
      · next hname =>
        cases h
        exact ⟨front, name, haddress, hfront, by simpa using hname, rfl⟩
    · cases h
  · rintro ⟨front, name, haddress, hfront, hname, rfl⟩
    have hcut := Text.cut_singleton_eq_some_iff.mpr ⟨hfront, haddress⟩
    simp [hcut, hname]

end Mailroom.Mail

namespace Mailroom.Store

open Mailroom.Mail

-- ---------------------------------------------------------------------------
-- Registration
-- ---------------------------------------------------------------------------

namespace Tables

/-- Domains and identities got into the tables by being created. Whatever else happens leaves them
as they are. -/
inductive Registered : Tables → Prop
  | start {tables : Tables} (domains : tables.domains = .empty)
      (identities : tables.identities = .empty) : Registered tables
  | createDomain {db : Database} (before : Registered db.tables) (org : OrgId) (name : String)
      (container : Option String) : Registered (db.createDomain org name container).2.tables
  | createIdentity {db : Database} (before : Registered db.tables) (domain : DomainId)
      (email : String) (catchAll : Bool) :
      Registered (db.createIdentity domain email catchAll).2.tables
  | other {tables after : Tables} (before : Registered tables)
      (domains : after.domains = tables.domains) (identities : after.identities = tables.identities) :
      Registered after

def Owned (tables : Tables) : Prop :=
  ∀ id row, tables.identities.get? id = some row → (tables.domains.get? row.domain).isSome = true

end Tables

namespace Database

variable {db : Database}

theorem createDomain_cases (org : OrgId) (name : String) (container : Option String) :
    (db.createDomain org name container).2.tables = db.tables ∨
      (db.createDomain org name container).2.tables = { db.tables with
        domains := (db.tables.domains.insert ⟨org, Text.lower name, container⟩).2 } := by
  simp only [createDomain, change]
  repeat' split
  · exact .inl rfl
  · exact .inl rfl
  · next hdone =>
    split at hdone
    · cases hdone
    · cases hdone
      exact .inr rfl

theorem createIdentity_cases (domain : DomainId) (email : String) (catchAll : Bool) :
    (db.createIdentity domain email catchAll).2.tables = db.tables ∨
      (db.tables.domains.get? domain).isSome = true ∧
        (db.createIdentity domain email catchAll).2.tables = { db.tables with
          identities := (db.tables.identities.insert ⟨domain, Text.lower email, catchAll⟩).2 } := by
  simp only [createIdentity, change]
  repeat' split
  · exact .inl rfl
  · exact .inl rfl
  · next hdone =>
    split at hdone
    · cases hdone
    · next row hrow =>
      cases hdone
      exact .inr ⟨by simp [hrow], rfl⟩

end Database

namespace Tables

variable {tables after : Tables}

theorem Owned.insertDomain (h : tables.Owned) (row : DomainRow) :
    Owned { tables with domains := (tables.domains.insert row).2 } := by
  intro id identity hidentity
  obtain ⟨domain, hdomain⟩ := Option.isSome_iff_exists.mp (h id identity hidentity)
  have hkept := Table.get?_of_prefix (u := (tables.domains.insert row).2)
    (List.prefix_append tables.domains.rows [row]) hdomain
  simp [hkept]

theorem Owned.insertIdentity (h : tables.Owned) {row : IdentityRow}
    (hrow : (tables.domains.get? row.domain).isSome = true) :
    Owned { tables with identities := (tables.identities.insert row).2 } := by
  intro id identity hidentity
  by_cases hid : id = (tables.identities.insert row).1
  · have hnew := Table.get?_insert_self tables.identities row
    rw [← hid, hidentity] at hnew
    cases hnew
    exact hrow
  · rw [Table.get?_insert_of_ne _ _ _ hid] at hidentity
    exact h id identity hidentity

theorem Registered.owned (h : tables.Registered) : tables.Owned := by
  induction h with
  | start domains identities =>
    intro id row hrow
    simp [identities, Table.empty, Table.get?] at hrow
  | @createDomain db before org name container ih =>
    rcases db.createDomain_cases org name container with hsame | hnew
    · rwa [hsame]
    · rw [hnew]
      exact ih.insertDomain _
  | @createIdentity db before domain email catchAll ih =>
    rcases db.createIdentity_cases domain email catchAll with hsame | ⟨hdomain, hnew⟩
    · rwa [hsame]
    · rw [hnew]
      exact ih.insertIdentity hdomain
  | other before domains identities ih =>
    intro id row hrow
    rw [domains]
    exact ih id row (identities ▸ hrow)

end Tables

-- ---------------------------------------------------------------------------
-- First finds
-- ---------------------------------------------------------------------------

theorem find?_eq_some_iff_of_pairwise {α : Type} {key : α → Int} {p : α → Bool} {xs : List α}
    (h : xs.Pairwise fun a b => key a < key b) {x : α} :
    xs.find? p = some x ↔ x ∈ xs ∧ p x = true ∧ ∀ y ∈ xs, p y = true → key x ≤ key y := by
  induction h with
  | nil => simp
  | @cons a xs ha _ ih =>
    cases hp : p a with
    | true =>
      rw [List.find?_cons_of_pos hp, Option.some.injEq]
      constructor
      · rintro rfl
        refine ⟨List.mem_cons_self, hp, fun y hy _ => ?_⟩
        rcases List.mem_cons.mp hy with rfl | hy
        · exact Int.le_refl _
        · exact Int.le_of_lt (ha y hy)
      · rintro ⟨hx, -, hleast⟩
        rcases List.mem_cons.mp hx with rfl | hx
        · rfl
        · have hle := hleast a List.mem_cons_self hp
          have hlt := ha x hx
          omega
    | false =>
      have hno : ¬ p a = true := by simp [hp]
      rw [List.find?_cons_of_neg hno, ih]
      constructor
      · rintro ⟨hx, hpx, hleast⟩
        refine ⟨List.mem_cons_of_mem a hx, hpx, fun y hy hpy => ?_⟩
        rcases List.mem_cons.mp hy with rfl | hy
        · exact absurd hpy hno
        · exact hleast y hy hpy
      · rintro ⟨hx, hpx, hleast⟩
        rcases List.mem_cons.mp hx with rfl | hx
        · exact absurd hpx hno
        · exact ⟨hx, hpx, fun y hy => hleast y (List.mem_cons_of_mem a hy)⟩

namespace Tables

variable {tables : Tables} {recipient : String} {id : IdentityId} {identity : Identity}

def Holds (tables : Tables) (identity : Identity) : Prop :=
  ∃ row domain, tables.identities.get? identity.id = some row ∧
    tables.domains.get? row.domain = some domain ∧
    identity = ⟨identity.id, row.domain, domain.org, row.email, row.catchAll⟩

/-- The identity's stored address is the recipient's in lower case. -/
def HasAddress (tables : Tables) (recipient : String) (id : IdentityId) : Prop :=
  ∃ row, tables.identities.get? id = some row ∧ row.email = Text.lower recipient

/-- The identity takes all other mail of the domain that is named, in lower case, behind the first
at sign of the recipient. -/
def TakesDomain (tables : Tables) (recipient : String) (id : IdentityId) : Prop :=
  ∃ row domain front name, tables.identities.get? id = some row ∧ row.catchAll = true ∧
    tables.domains.get? row.domain = some domain ∧
    recipient.toList = front ++ '@' :: name ∧ '@' ∉ front ∧ name ≠ [] ∧
    domain.name = Text.lower (String.ofList name)

/-- The identity of a recipient: the first with the address or, if there is none, the first that
takes all other mail of the domain. -/
def IsIdentityOf (tables : Tables) (recipient : String) (id : IdentityId) : Prop :=
  IsLeast {i | tables.HasAddress recipient i} id ∨
    (∀ i, ¬ tables.HasAddress recipient i) ∧ IsLeast {i | tables.TakesDomain recipient i} id

theorem Holds.eq_of_id {x y : Identity} (hx : tables.Holds x) (hy : tables.Holds y)
    (h : x.id = y.id) : x = y := by
  obtain ⟨row, domain, hrow, hdomain, hx⟩ := hx
  obtain ⟨row', domain', hrow', hdomain', hy⟩ := hy
  rw [h, hrow'] at hrow
  cases hrow
  rw [hdomain'] at hdomain
  cases hdomain
  rw [hx, hy, h]

theorem holds_iff_readIdentity? : tables.Holds identity ↔
    ∃ e ∈ tables.identities.entries, Database.readIdentity? tables e.1 e.2 = some identity := by
  simp only [Table.mem_entries, Database.readIdentity?_eq_some]
  constructor
  · rintro ⟨row, domain, hrow, hdomain, hidentity⟩
    exact ⟨(identity.id, row), hrow, domain, hdomain, hidentity⟩
  · rintro ⟨⟨id, row⟩, hrow, domain, hdomain, rfl⟩
    exact ⟨row, domain, hrow, hdomain, rfl⟩

end Tables

namespace Database

variable {tables : Tables} {p : Identity → Bool} {identity : Identity}

theorem pairwise_identities (tables : Tables) :
    (tables.identities.entries.filterMap fun e => readIdentity? tables e.1 e.2).Pairwise
      fun a b => a.id < b.id := by
  refine List.Pairwise.filterMap _ (fun a b hab x hx y hy => ?_) tables.identities.pairwise_entries
  obtain ⟨_, -, rfl⟩ := readIdentity?_eq_some.mp hx
  obtain ⟨_, -, rfl⟩ := readIdentity?_eq_some.mp hy
  exact hab

theorem findIdentity?_eq_some_iff : findIdentity? tables p = some identity ↔
    tables.Holds identity ∧ p identity = true ∧
      ∀ other, tables.Holds other → p other = true → identity.id ≤ other.id := by
  rw [findIdentity?, find?_eq_some_iff_of_pairwise (pairwise_identities tables)]
  simp only [List.mem_filterMap, Tables.holds_iff_readIdentity?]

theorem findIdentity?_eq_some_iff_isLeast {P : IdentityId → Prop}
    (hP : ∀ id, P id ↔ ∃ x, tables.Holds x ∧ x.id = id ∧ p x = true) :
    findIdentity? tables p = some identity ↔
      tables.Holds identity ∧ IsLeast {id | P id} identity.id := by
  rw [findIdentity?_eq_some_iff]
  constructor
  · rintro ⟨hholds, hp, hleast⟩
    refine ⟨hholds, (hP _).mpr ⟨identity, hholds, rfl, hp⟩, fun id hid => ?_⟩
    obtain ⟨other, hother, rfl, hpo⟩ := (hP id).mp hid
    exact hleast other hother hpo
  · rintro ⟨hholds, hid, hleast⟩
    obtain ⟨same, hsame, heq, hp⟩ := (hP _).mp hid
    obtain rfl := hsame.eq_of_id hholds heq
    exact ⟨hholds, hp, fun other hother hpo => hleast ((hP _).mpr ⟨other, hother, rfl, hpo⟩)⟩

theorem findIdentity?_eq_none_iff {P : IdentityId → Prop}
    (hP : ∀ id, P id ↔ ∃ x, tables.Holds x ∧ x.id = id ∧ p x = true) :
    findIdentity? tables p = none ↔ ∀ id, ¬ P id := by
  rw [findIdentity?, List.find?_eq_none]
  simp only [List.mem_filterMap, ← Tables.holds_iff_readIdentity?, hP]
  constructor
  · rintro h id ⟨x, hx, -, hp⟩
    exact h x hx hp
  · intro h x hx hp
    exact h x.id ⟨x, hx, rfl, hp⟩

end Database

-- ---------------------------------------------------------------------------
-- The identity of a recipient
-- ---------------------------------------------------------------------------

namespace Tables

variable {tables : Tables} {recipient : String} {id : IdentityId} {identity : Identity}

theorem holds_of_get? {row : IdentityRow} {domain : DomainRow}
    (hrow : tables.identities.get? id = some row)
    (hdomain : tables.domains.get? row.domain = some domain) :
    tables.Holds ⟨id, row.domain, domain.org, row.email, row.catchAll⟩ :=
  ⟨row, domain, hrow, hdomain, rfl⟩

theorem Owned.exists_holds (h : tables.Owned) {row : IdentityRow}
    (hrow : tables.identities.get? id = some row) :
    ∃ domain : DomainRow,
      tables.Holds ⟨id, row.domain, domain.org, row.email, row.catchAll⟩ := by
  obtain ⟨domain, hdomain⟩ := Option.isSome_iff_exists.mp (h id row hrow)
  exact ⟨domain, holds_of_get? hrow hdomain⟩

theorem Owned.hasAddress_iff (h : tables.Owned) : tables.HasAddress recipient id ↔
    ∃ x, tables.Holds x ∧ x.id = id ∧ (x.email == Text.lower recipient) = true := by
  constructor
  · rintro ⟨row, hrow, haddress⟩
    obtain ⟨domain, hholds⟩ := h.exists_holds hrow
    exact ⟨_, hholds, rfl, beq_iff_eq.mpr haddress⟩
  · rintro ⟨x, ⟨row, domain, hrow, hdomain, hx⟩, rfl, haddress⟩
    rw [hx] at haddress
    exact ⟨row, hrow, beq_iff_eq.mp haddress⟩

theorem takesDomain_iff {name : String} (hname : domainOf? recipient = some name) :
    tables.TakesDomain recipient id ↔ ∃ x, tables.Holds x ∧ x.id = id ∧
      (x.catchAll && (tables.domains.get? x.domain).any fun row => row.name == Text.lower name) =
        true := by
  obtain ⟨front, cs, hrecipient, hfront, hcs, rfl⟩ := domainOf?_eq_some_iff.mp hname
  simp only [Bool.and_eq_true, Option.any_eq_true, beq_iff_eq]
  constructor
  · rintro ⟨row, domain, other, name, hrow, hcatch, hdomain, hother, hfree, hne, hnamed⟩
    have hsame := domainOf?_eq_some_iff.mpr ⟨other, name, hother, hfree, hne, rfl⟩
    rw [← Option.some.inj (hname.symm.trans hsame)] at hnamed
    exact ⟨_, holds_of_get? hrow hdomain, rfl, hcatch, domain, hdomain, hnamed⟩
  · rintro ⟨x, ⟨row, domain, hrow, hdomain, hx⟩, rfl, hcatch, other, hother, hnamed⟩
    rw [hx] at hcatch hother
    rw [hdomain] at hother
    cases hother
    exact ⟨row, domain, front, cs, hrow, hcatch, hdomain, hrecipient, hfront, hcs, hnamed⟩

theorem not_takesDomain (hname : domainOf? recipient = none) : ¬ tables.TakesDomain recipient id := by
  rintro ⟨row, domain, front, name, -, -, -, hrecipient, hfront, hne, -⟩
  have hsome := domainOf?_eq_some_iff.mpr ⟨front, name, hrecipient, hfront, hne, rfl⟩
  rw [hname] at hsome
  cases hsome

theorem Owned.identityFor?_eq_some_iff (h : tables.Owned) :
    Database.identityFor? tables recipient = some identity ↔
      tables.Holds identity ∧ tables.IsIdentityOf recipient identity.id := by
  have haddress (id : IdentityId) : tables.HasAddress recipient id ↔ _ := h.hasAddress_iff
  rw [Database.identityFor?, Option.or_eq_some_iff,
    Database.findIdentity?_eq_some_iff_isLeast haddress,
    Database.findIdentity?_eq_none_iff haddress, IsIdentityOf, and_or_left]
  refine or_congr_right ?_
  cases hname : domainOf? recipient with
  | none =>
    refine iff_of_false (by simp) ?_
    rintro ⟨-, -, hid, -⟩
    exact not_takesDomain hname hid
  | some name =>
    rw [Option.bind_some, Database.findIdentity?_eq_some_iff_isLeast fun id => takesDomain_iff hname]
    exact and_left_comm

theorem Owned.identityFor?_of_isIdentityOf (h : tables.Owned)
    (hid : tables.IsIdentityOf recipient id) :
    ∃ x, tables.Holds x ∧ x.id = id ∧ Database.identityFor? tables recipient = some x := by
  have hholds : ∃ x, tables.Holds x ∧ x.id = id := by
    rcases hid with hleast | ⟨-, hleast⟩
    · obtain ⟨row, hrow, -⟩ := hleast.1
      obtain ⟨domain, hholds⟩ := h.exists_holds hrow
      exact ⟨_, hholds, rfl⟩
    · obtain ⟨row, -, -, -, hrow, -⟩ := hleast.1
      obtain ⟨domain, hholds⟩ := h.exists_holds hrow
      exact ⟨_, hholds, rfl⟩
  obtain ⟨x, hx, rfl⟩ := hholds
  exact ⟨x, hx, rfl, h.identityFor?_eq_some_iff.mpr ⟨hx, hid⟩⟩

theorem Owned.identityFor?_eq_none_iff (h : tables.Owned) :
    Database.identityFor? tables recipient = none ↔ ∀ id, ¬ tables.IsIdentityOf recipient id := by
  constructor
  · intro hnone id hid
    obtain ⟨x, -, -, hsome⟩ := h.identityFor?_of_isIdentityOf hid
    rw [hnone] at hsome
    cases hsome
  · intro hno
    cases hfound : Database.identityFor? tables recipient with
    | none => rfl
    | some x => exact absurd (h.identityFor?_eq_some_iff.mp hfound).2 (hno x.id)

end Tables

end Mailroom.Store
