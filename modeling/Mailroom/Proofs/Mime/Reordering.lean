import Mailroom.Proofs.Mime.Lookup

/-!
# The order of parameters

Where no key is given two plain values and no name two sections with one index, the order of the
segments makes no difference to what is found under a key, nor to how much is found
(`ofSegments_perm`). Segments that say nothing and sections that spell no value are no exception.
-/

namespace Mailroom.Mime.Parameters

def Entry.plainKey? : Entry → Option String
  | .plain key _ => some key
  | .part .. => none

def Entry.place? : Entry → Option (String × Nat)
  | .plain .. => none
  | .part name content => some (name, content.index)

/-- No key has two plain values, and no name two sections with one index. -/
structure Unambiguous (entries : List Entry) : Prop where
  plain : (entries.filterMap Entry.plainKey?).Nodup
  sections : (entries.filterMap Entry.place?).Nodup

instance (entries : List Entry) : Decidable (Unambiguous entries) :=
  decidable_of_iff
    ((entries.filterMap Entry.plainKey?).Nodup ∧ (entries.filterMap Entry.place?).Nodup)
    ⟨fun ⟨a, b⟩ => ⟨a, b⟩, fun ⟨a, b⟩ => ⟨a, b⟩⟩

variable {entries others : List Entry}

theorem Unambiguous.perm (h : Unambiguous entries) (hp : entries.Perm others) :
    Unambiguous others :=
  ⟨(hp.filterMap _).nodup_iff.mp h.plain, (hp.filterMap _).nodup_iff.mp h.sections⟩

-- ---------------------------------------------------------------------------
-- Values
-- ---------------------------------------------------------------------------

theorem plainValues_sublist (name : String) (entries : List Entry) :
    ((plainValues name entries).map fun _ => name).Sublist (entries.filterMap Entry.plainKey?) := by
  induction entries with
  | nil => exact .slnil
  | cons e entries ih =>
    cases e with
    | part => exact ih
    | plain key value =>
      by_cases h : name = key
      · subst h
        simpa [plainValues, Entry.plainKey?] using ih
      · simpa [plainValues, Entry.plainKey?, h] using ih.cons key

theorem sectionsOf_sublist (name : String) (entries : List Entry) :
    ((sectionsOf name entries).map fun s => (name, s.index)).Sublist
      (entries.filterMap Entry.place?) := by
  induction entries with
  | nil => exact .slnil
  | cons e entries ih =>
    cases e with
    | plain => exact ih
    | part key s =>
      by_cases h : name = key
      · subst h
        simpa [sectionsOf, Entry.place?] using ih
      · simpa [sectionsOf, Entry.place?, h] using ih.cons (key, s.index)

theorem Unambiguous.length_plainValues (h : Unambiguous entries) (name : String) :
    (plainValues name entries).length ≤ 1 := by
  have hnodup := h.plain.sublist (plainValues_sublist name entries)
  rwa [List.map_const', List.nodup_replicate] at hnodup

theorem Unambiguous.nodup_index (h : Unambiguous entries) (name : String) :
    ((sectionsOf name entries).map Section.index).Nodup := by
  have hnodup := h.sections.sublist (sectionsOf_sublist name entries)
  refine List.Nodup.of_map (fun index => (name, index)) ?_
  rwa [List.map_map]

theorem Unambiguous.plainValues_eq (h : Unambiguous entries) (hp : entries.Perm others)
    (name : String) : plainValues name entries = plainValues name others := by
  have hvalues : (plainValues name entries).Perm (plainValues name others) := hp.filterMap _
  match hlist : plainValues name entries, h.length_plainValues name with
  | [], _ => exact (hlist ▸ hvalues).nil_eq
  | [value], _ => exact (List.singleton_perm.mp (hlist ▸ hvalues))

theorem sortSections_perm {sections more : List Section}
    (h : (sections.map Section.index).Nodup) (hp : sections.Perm more) :
    sortSections sections = sortSections more := by
  have hsorted := perm_sortSections more
  refine sortSections_eq_of_perm (hp.trans hsorted.symm) ?_
  have hne : (sortSections more).Pairwise fun s t => s.index ≠ t.index := by
    exact List.pairwise_map.mp (((hp.trans hsorted.symm).map _).nodup_iff.mp h)
  exact ((inOrder_sortSections more).and hne).imp fun hst => Nat.lt_of_le_of_ne hst.1 hst.2

theorem Unambiguous.joinedValue?_eq (h : Unambiguous entries) (hp : entries.Perm others)
    (name : String) : joinedValue? name entries = joinedValue? name others := by
  have hsections := sectionsOf_perm name hp
  have hnone : sectionsOf name entries = [] ↔ sectionsOf name others = [] := by
    rw [← List.length_eq_zero_iff, hsections.length_eq, List.length_eq_zero_iff]
  simp only [joinedValue?, hnone, sectionsValue?, sortSections_perm (h.nodup_index name) hsections]

theorem Unambiguous.valueOf?_eq (h : Unambiguous entries) (hp : entries.Perm others)
    (name : String) : valueOf? name entries = valueOf? name others := by
  rw [valueOf?, h.joinedValue?_eq hp, h.plainValues_eq hp, valueOf?]

-- ---------------------------------------------------------------------------
-- Keys
-- ---------------------------------------------------------------------------

theorem nodup_keys_put {key value : String} {pairs : List (String × String)}
    (h : (pairs.map Prod.fst).Nodup) : ((put key value pairs).map Prod.fst).Nodup := by
  induction pairs with
  | nil => exact List.nodup_singleton key
  | cons pair rest ih =>
    obtain ⟨hpair, hrest⟩ := List.nodup_cons.mp h
    rw [put]
    split
    · next hkey => exact List.nodup_cons.mpr ⟨hkey ▸ hpair, hrest⟩
    · next hkey =>
      refine List.nodup_cons.mpr ⟨fun hm => ?_, ih hrest⟩
      exact (mem_keys_put.mp hm).elim hkey hpair

theorem nodup_keys_putJoined (groups : List (String × List Section))
    {pairs : List (String × String)} (h : (pairs.map Prod.fst).Nodup) :
    ((putJoined groups pairs).map Prod.fst).Nodup := by
  induction groups generalizing pairs with
  | nil => exact h
  | cons group groups ih =>
    obtain ⟨key, sections⟩ := group
    cases hvalue : sectionsValue? sections with
    | none =>
      rw [putJoined_cons_none hvalue]
      exact ih h
    | some value =>
      rw [putJoined_cons_some hvalue]
      exact ih (nodup_keys_put h)

theorem map_fst_plainPairs (entries : List Entry) :
    (plainPairs entries).map Prod.fst = entries.filterMap Entry.plainKey? := by
  rw [plainPairs, List.map_filterMap]
  congr 1
  funext e
  cases e <;> rfl

theorem nodup_keys_ofSegments {segments : List (List Char)}
    (h : Unambiguous (segments.filterMap Entry.ofSegment?)) :
    ((ofSegments segments).pairs.map Prod.fst).Nodup :=
  nodup_keys_putJoined _ (map_fst_plainPairs _ ▸ h.plain)

theorem mem_keys_ofSegments {segments : List (List Char)} {name : String} :
    name ∈ (ofSegments segments).pairs.map Prod.fst ↔
      (valueOf? name (segments.filterMap Entry.ofSegment?)).isSome = true := by
  rw [← lookup_ofSegments, List.lookup_isSome_iff, List.mem_map]
  exact exists_congr fun pair => and_congr_right fun _ => by rw [beq_iff_eq, eq_comm]

/-- The order of the segments changes neither the values nor their number, and a value that
sections spell is found wherever these stand. -/
theorem ofSegments_perm {segments more : List (List Char)} (hp : segments.Perm more)
    (h : Unambiguous (segments.filterMap Entry.ofSegment?)) :
    (ofSegments segments).size = (ofSegments more).size ∧
      (∀ key, (ofSegments segments).get? key = (ofSegments more).get? key) ∧
      ∀ key value,
        joinedValue? (Text.lowerAscii key) (segments.filterMap Entry.ofSegment?) = some value →
        (ofSegments more).get? key = some value := by
  have hentries := hp.filterMap Entry.ofSegment?
  have hget (key : String) : (ofSegments segments).get? key = (ofSegments more).get? key := by
    rw [get?_ofSegments, get?_ofSegments, h.valueOf?_eq hentries]
  have hkeys : ((ofSegments segments).pairs.map Prod.fst).Perm
      ((ofSegments more).pairs.map Prod.fst) := by
    refine (List.perm_ext_iff_of_nodup (nodup_keys_ofSegments h)
      (nodup_keys_ofSegments (h.perm hentries))).mpr fun name => ?_
    rw [mem_keys_ofSegments, mem_keys_ofSegments, h.valueOf?_eq hentries]
  refine ⟨?_, hget, fun key value hvalue => ?_⟩
  · simpa [size] using hkeys.length_eq
  · rw [← hget, get?_ofSegments, valueOf?, hvalue, Option.some_or]

namespace Jumbled

/-- A value in two sections that has a plain rival, a segment that says nothing, and a section in a
character set that there is not. -/
def segments : List (List Char) :=
  ["name*1*=%62".toList, "name=plain".toList, "junk".toList, "Name*0=a".toList,
    "note*=klingon'en'q".toList, "note=y".toList]

end Jumbled

theorem ofSegments_perm_jumbled :
    Jumbled.segments.Perm Jumbled.segments.reverse ∧
      Unambiguous (Jumbled.segments.filterMap Entry.ofSegment?) ∧
      (ofSegments Jumbled.segments).size = (ofSegments Jumbled.segments.reverse).size ∧
      (ofSegments Jumbled.segments.reverse).get? "NOTE" =
        (ofSegments Jumbled.segments).get? "NOTE" ∧
      (ofSegments Jumbled.segments.reverse).get? "NAME" = some "ab" := by
  have hp : Jumbled.segments.Perm Jumbled.segments.reverse := (List.reverse_perm _).symm
  have h : Unambiguous (Jumbled.segments.filterMap Entry.ofSegment?) := by decide
  obtain ⟨hsize, hget, hjoined⟩ := ofSegments_perm hp h
  exact ⟨hp, h, hsize, (hget "NOTE").symm, hjoined "NAME" "ab" (by decide)⟩

end Mailroom.Mime.Parameters
