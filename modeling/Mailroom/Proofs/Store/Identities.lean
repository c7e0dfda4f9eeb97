import Mailroom.Mail.Address
import Mailroom.Proofs.Store.Table
import Mailroom.Store.Database

/-!
# Who takes the mail of a recipient

Searches for an identity succeed exactly if there is one that takes the mail, and what they
find belongs to a domain that exists. More domains and identities take no recipient away.
-/

namespace Mailroom.Store

open Mailroom.Mail

/-- An identity takes the mail of a recipient: it has the address, or it takes all other mail
of the recipient's domain. -/
def IdentityRow.Takes (row : IdentityRow) (domain : DomainRow) (recipient : String) : Prop :=
  row.email = Text.lower recipient ∨
    row.catchAll = true ∧ ∃ name, domainOf? recipient = some name ∧ domain.name = Text.lower name

namespace Tables

def Reaches (tables : Tables) (recipient : String) : Prop :=
  ∃ id row domain, tables.identities.get? id = some row ∧
    tables.domains.get? row.domain = some domain ∧ row.Takes domain recipient

/-- No domain and no identity is taken away or changed. -/
structure Grows (before after : Tables) : Prop where
  domains : before.domains.rows <+: after.domains.rows
  identities : before.identities.rows <+: after.identities.rows

theorem Grows.refl (tables : Tables) : tables.Grows tables :=
  ⟨List.prefix_refl _, List.prefix_refl _⟩

theorem Grows.trans {a b c : Tables} (hab : a.Grows b) (hbc : b.Grows c) : a.Grows c :=
  ⟨hab.domains.trans hbc.domains, hab.identities.trans hbc.identities⟩

theorem Grows.reaches {before after : Tables} (h : before.Grows after) {recipient : String}
    (hr : before.Reaches recipient) : after.Reaches recipient := by
  obtain ⟨id, row, domain, hrow, hdomain, htakes⟩ := hr
  exact ⟨id, row, domain, Table.get?_of_prefix h.identities hrow,
    Table.get?_of_prefix h.domains hdomain, htakes⟩

end Tables

-- ---------------------------------------------------------------------------
-- Searches
-- ---------------------------------------------------------------------------

namespace Database

theorem readIdentity?_eq_some {tables : Tables} {id : IdentityId} {row : IdentityRow}
    {identity : Identity} : readIdentity? tables id row = some identity ↔
      ∃ domain, tables.domains.get? row.domain = some domain ∧
        identity = ⟨id, row.domain, domain.org, row.email, row.catchAll⟩ := by
  rw [readIdentity?, Option.map_eq_some_iff]
  exact exists_congr fun domain => and_congr_right fun _ => eq_comm

theorem findIdentity?_isSome {tables : Tables} {p : Identity → Bool} :
    (findIdentity? tables p).isSome = true ↔ ∃ id row domain,
      tables.identities.get? id = some row ∧ tables.domains.get? row.domain = some domain ∧
        p ⟨id, row.domain, domain.org, row.email, row.catchAll⟩ = true := by
  simp only [findIdentity?, List.find?_isSome, List.mem_filterMap, Table.mem_entries,
    readIdentity?_eq_some]
  constructor
  · rintro ⟨identity, ⟨e, hrow, domain, hdomain, rfl⟩, hp⟩
    exact ⟨e.1, e.2, domain, hrow, hdomain, hp⟩
  · rintro ⟨id, row, domain, hrow, hdomain, hp⟩
    exact ⟨_, ⟨(id, row), hrow, domain, hdomain, rfl⟩, hp⟩

theorem domain_of_findIdentity? {tables : Tables} {p : Identity → Bool} {identity : Identity}
    (h : findIdentity? tables p = some identity) :
    (tables.domains.get? identity.domain).isSome = true := by
  obtain ⟨e, -, he⟩ := List.mem_filterMap.mp (List.mem_of_find?_eq_some h)
  obtain ⟨domain, hdomain, rfl⟩ := readIdentity?_eq_some.mp he
  simp [hdomain]

/-- The identity that is found for a recipient, by address or else by domain. -/
def identityFor? (tables : Tables) (recipient : String) : Option Identity :=
  (findIdentity? tables (·.email == Text.lower recipient)).or
    ((domainOf? recipient).bind fun domain => findIdentity? tables fun identity =>
      identity.catchAll &&
        ((tables.domains.get? identity.domain).any fun row => row.name == Text.lower domain))

theorem identityFor?_isSome {tables : Tables} {recipient : String} :
    (identityFor? tables recipient).isSome = true ↔ tables.Reaches recipient := by
  unfold identityFor? Tables.Reaches IdentityRow.Takes
  rw [Option.isSome_or, Bool.or_eq_true, findIdentity?_isSome]
  simp only [Option.isSome_bind, Option.any_eq_true, findIdentity?_isSome, Bool.and_eq_true,
    beq_iff_eq]
  constructor
  · rintro (⟨id, row, domain, hrow, hdomain, h⟩ | ⟨name, hname, id, row, domain, hrow, hdomain, h⟩)
    · exact ⟨id, row, domain, hrow, hdomain, .inl h⟩
    · obtain ⟨hcatch, other, hother, hn⟩ := h
      obtain rfl := Option.some.inj (hdomain.symm.trans hother)
      exact ⟨id, row, domain, hrow, hdomain, .inr ⟨hcatch, name, hname, hn⟩⟩
  · rintro ⟨id, row, domain, hrow, hdomain, h | ⟨hcatch, name, hname, hn⟩⟩
    · exact .inl ⟨id, row, domain, hrow, hdomain, h⟩
    · exact .inr ⟨name, hname, id, row, domain, hrow, hdomain, hcatch, domain, hdomain, hn⟩

theorem domain_of_identityFor? {tables : Tables} {recipient : String} {identity : Identity}
    (h : identityFor? tables recipient = some identity) :
    (tables.domains.get? identity.domain).isSome = true := by
  rcases Option.or_eq_some_iff.mp h with h | ⟨-, h⟩
  · exact domain_of_findIdentity? h
  · obtain ⟨domain, -, h⟩ := Option.bind_eq_some_iff.mp h
    exact domain_of_findIdentity? h

end Database

end Mailroom.Store
