import Mathlib.Data.List.Induction
import Mathlib.Data.List.Nodup
import Mailroom.Proofs.Mime.Parameters
import Mailroom.Proofs.Text.Case

/-!
# What the value of a parameter depends on

Sections of a name are joined in the order of their indices, whatever the order in which they are
given (`sortSections_eq_of_perm`). A parameter has the value that its sections spell, or the first
plain value of its name if there is none, and nothing else is looked at (`get?_ofSegments`).
-/

namespace Mailroom.Mime.Parameters

-- ---------------------------------------------------------------------------
-- Sections in order
-- ---------------------------------------------------------------------------

def InOrder (sections : List Section) : Prop := sections.Pairwise fun s t => s.index ≤ t.index

theorem perm_insertSection (s : Section) (sections : List Section) :
    (insertSection s sections).Perm (s :: sections) := by
  induction sections with
  | nil => exact .refl _
  | cons t rest ih =>
    rw [insertSection]
    split
    · exact (ih.cons t).trans (.swap s t rest)
    · exact .refl _

theorem InOrder.insertSection {sections : List Section} (s : Section) (h : InOrder sections) :
    InOrder (insertSection s sections) := by
  induction sections with
  | nil => exact List.pairwise_singleton _ s
  | cons t rest ih =>
    obtain ⟨ht, hrest⟩ := List.pairwise_cons.mp h
    rw [Parameters.insertSection]
    split
    · next hle =>
      refine List.pairwise_cons.mpr ⟨fun u hu => ?_, ih hrest⟩
      rcases List.mem_cons.mp ((perm_insertSection s rest).mem_iff.mp hu) with rfl | hu
      · exact hle
      · exact ht u hu
    · next hlt =>
      refine List.pairwise_cons.mpr ⟨fun u hu => ?_, h⟩
      rcases List.mem_cons.mp hu with rfl | hu
      · omega
      · have := ht u hu
        omega

theorem sortSections_concat (sections : List Section) (s : Section) :
    sortSections (sections ++ [s]) = insertSection s (sortSections sections) := by
  simp [sortSections]

theorem perm_sortSections (sections : List Section) : (sortSections sections).Perm sections := by
  induction sections using List.reverseRecOn with
  | nil => exact .refl _
  | append_singleton sections s ih =>
    rw [sortSections_concat]
    exact (perm_insertSection s _).trans ((ih.cons s).trans (List.perm_append_singleton s _).symm)

theorem inOrder_sortSections (sections : List Section) : InOrder (sortSections sections) := by
  induction sections using List.reverseRecOn with
  | nil => exact List.Pairwise.nil
  | append_singleton sections s ih =>
    rw [sortSections_concat]
    exact ih.insertSection s

theorem sortSections_eq_of_perm {sections ordered : List Section} (h : sections.Perm ordered)
    (ho : ordered.Pairwise fun s t => s.index < t.index) : sortSections sections = ordered := by
  have hperm := (perm_sortSections sections).trans h
  have hnodup : (ordered.map Section.index).Nodup :=
    List.pairwise_map.mpr (ho.imp fun hlt => Nat.ne_of_lt hlt)
  refine hperm.eq_of_pairwise (fun s t hs ht hst hts => ?_) (inOrder_sortSections sections)
    (ho.imp fun hlt => Nat.le_of_lt hlt)
  exact List.inj_on_of_nodup_map hnodup (hperm.mem_iff.mp hs) ht (Nat.le_antisymm hst hts)

-- ---------------------------------------------------------------------------
-- Names
-- ---------------------------------------------------------------------------

def Entry.name : Entry → String
  | .plain key _ => key
  | .part name _ => name

def Lowered (name : String) : Prop := Text.lowerAscii name = name

theorem lowered_ofList {cs : List Char} (h : ∀ c ∈ cs, c.toLower = c) :
    Lowered (String.ofList cs) := by
  rw [Lowered, Text.lowerAscii, String.toList_ofList, Text.map_toLower_eq_self h]

theorem Entry.cases_ofSegment? {segment : List Char} {e : Entry}
    (h : ofSegment? segment = some e) : ∃ key raw,
      segment = key ++ '=' :: raw ∧ '=' ∉ key ∧
      ((e = .plain (String.ofList ((Text.trim key).map Char.toLower))
          (String.ofList (unquote (Text.trim raw)))) ∨
        ∃ base mark s, (Text.trim key).map Char.toLower = base ++ '*' :: mark ∧
          Section.ofMark? mark (unquote (Text.trim raw)) = some s ∧
          e = .part (String.ofList base) s) := by
  unfold ofSegment? at h
  obtain ⟨⟨key, raw⟩, hcut, hentry⟩ := Option.bind_eq_some_iff.mp h
  obtain ⟨hkey, hsegment⟩ := Text.cut_singleton_eq_some_iff.mp hcut
  refine ⟨key, raw, hsegment, hkey, ?_⟩
  simp only at hentry
  split at hentry
  · exact nomatch hentry
  · split at hentry
    · exact .inl (Option.some.inj hentry).symm
    · next base mark hstar =>
      obtain ⟨s, hs, hpart⟩ := Option.bind_eq_some_iff.mp hentry
      exact .inr ⟨base, mark, s, (Text.cut_singleton_eq_some_iff.mp hstar).2, hs,
        (Option.some.inj hpart).symm⟩

theorem Entry.lowered_name {segment : List Char} {e : Entry} (h : ofSegment? segment = some e) :
    Lowered e.name := by
  obtain ⟨key, raw, -, -, he⟩ := cases_ofSegment? h
  have hkey : ∀ c ∈ (Text.trim key).map Char.toLower, c.toLower = c := by
    intro c hc
    obtain ⟨d, -, rfl⟩ := List.mem_map.mp hc
    exact Text.toLower_toLower d
  rcases he with rfl | ⟨base, mark, s, hbase, -, rfl⟩
  · exact lowered_ofList hkey
  · exact lowered_ofList fun c hc => hkey c (hbase ▸ List.mem_append_left _ hc)

theorem mem_keys_put {name key value : String} {pairs : List (String × String)} :
    name ∈ (put key value pairs).map Prod.fst ↔ name = key ∨ name ∈ pairs.map Prod.fst := by
  induction pairs with
  | nil => simp [put]
  | cons pair rest ih =>
    rw [put]
    split
    · next h => simp [h]
    · simp only [List.map_cons, List.mem_cons, ih]
      exact or_left_comm

theorem keys_addSection (name : String) (s : Section) (groups : List (String × List Section)) :
    (addSection name s groups).map Prod.fst =
      if name ∈ groups.map Prod.fst then groups.map Prod.fst else groups.map Prod.fst ++ [name] := by
  induction groups with
  | nil => rfl
  | cons group rest ih =>
    rw [addSection]
    by_cases h : group.1 = name
    · simp [h]
    · simp only [if_neg h, List.map_cons, ih, List.mem_cons, Ne.symm h, false_or]
      split <;> rfl

theorem nodup_keys_addSection {name : String} {s : Section} {groups : List (String × List Section)}
    (h : (groups.map Prod.fst).Nodup) : ((addSection name s groups).map Prod.fst).Nodup := by
  rw [keys_addSection]
  split
  · exact h
  · next hm => exact h.append (List.nodup_singleton name) (by simpa using hm)

theorem sectionGroups_concat (entries : List Entry) (e : Entry) :
    sectionGroups (entries ++ [e]) = match e with
      | .plain .. => sectionGroups entries
      | .part name s => addSection name s (sectionGroups entries) := by
  cases e <;> simp [sectionGroups]

theorem nodup_keys_sectionGroups (entries : List Entry) :
    ((sectionGroups entries).map Prod.fst).Nodup := by
  induction entries using List.reverseRecOn with
  | nil => exact List.nodup_nil
  | append_singleton entries e ih =>
    rw [sectionGroups_concat]
    cases e with
    | plain => exact ih
    | part name s => exact nodup_keys_addSection ih

-- ---------------------------------------------------------------------------
-- Lookup
-- ---------------------------------------------------------------------------

def plainValues (name : String) (entries : List Entry) : List String :=
  entries.filterMap fun
    | .plain key value => if name = key then some value else none
    | .part .. => none

def sectionsOf (name : String) (entries : List Entry) : List Section :=
  entries.filterMap fun
    | .plain .. => none
    | .part key content => if name = key then some content else none

theorem sectionsOf_append (name : String) (entries more : List Entry) :
    sectionsOf name (entries ++ more) = sectionsOf name entries ++ sectionsOf name more :=
  List.filterMap_append

theorem sectionsOf_perm (name : String) {entries more : List Entry} (h : entries.Perm more) :
    (sectionsOf name entries).Perm (sectionsOf name more) :=
  h.filterMap _

def joinedValue? (name : String) (entries : List Entry) : Option String :=
  if sectionsOf name entries = [] then none else sectionsValue? (sectionsOf name entries)

/-- The value that the sections of a name spell, or else its first plain value. -/
def valueOf? (name : String) (entries : List Entry) : Option String :=
  (joinedValue? name entries).or (plainValues name entries).head?

theorem lookup_pair {β : Type} (name key : String) (value : β) (rest : List (String × β)) :
    ((key, value) :: rest).lookup name = if name = key then some value else rest.lookup name := by
  rw [List.lookup_cons]
  cases h : name == key with
  | false => rw [if_neg (beq_eq_false_iff_ne.mp h)]
  | true => rw [if_pos (beq_iff_eq.mp h)]

theorem lookup_put (name key value : String) (pairs : List (String × String)) :
    (put key value pairs).lookup name = if name = key then some value else pairs.lookup name := by
  induction pairs with
  | nil => exact lookup_pair name key value []
  | cons pair rest ih =>
    obtain ⟨other, old⟩ := pair
    rw [put]
    split
    · next h =>
      obtain rfl : other = key := h
      simp only [lookup_pair]
      split <;> rfl
    · next h =>
      have hne : other ≠ key := h
      simp only [lookup_pair, ih]
      grind

theorem lookup_addSection (name key : String) (s : Section) (groups : List (String × List Section)) :
    (addSection key s groups).lookup name =
      if name = key then some ((groups.lookup name).getD [] ++ [s]) else groups.lookup name := by
  induction groups with
  | nil => exact lookup_pair name key [s] []
  | cons group rest ih =>
    obtain ⟨other, sections⟩ := group
    rw [addSection]
    split
    · next h =>
      obtain rfl : other = key := h
      simp only [lookup_pair]
      split <;> rfl
    · next h =>
      have hne : other ≠ key := h
      simp only [lookup_pair, ih]
      grind

theorem lookup_plainPairs (name : String) (entries : List Entry) :
    (plainPairs entries).lookup name = (plainValues name entries).head? := by
  induction entries with
  | nil => rfl
  | cons e entries ih =>
    cases e with
    | part => exact ih
    | plain key value =>
      refine (lookup_pair name key value (plainPairs entries)).trans ?_
      rw [ih]
      by_cases h : name = key <;> simp [plainValues, h]

theorem lookup_sectionGroups (name : String) (entries : List Entry) :
    (sectionGroups entries).lookup name =
      if sectionsOf name entries = [] then none else some (sectionsOf name entries) := by
  -- from the end: the last entry is the last to be added to a group
  induction entries using List.reverseRecOn with
  | nil => rfl
  | append_singleton entries e ih =>
    rw [sectionGroups_concat, sectionsOf_append]
    cases e with
    | plain => simpa [sectionsOf] using ih
    | part key s =>
      rw [lookup_addSection, ih]
      by_cases h : name = key
      · have hone : sectionsOf name [.part key s] = [s] := by simp [sectionsOf, h]
        rw [if_pos h, hone, if_neg (List.concat_ne_nil _ _)]
        by_cases hn : sectionsOf name entries = [] <;> simp [hn]
      · have hnone : sectionsOf name [.part key s] = [] := by simp [sectionsOf, h]
        rw [if_neg h, hnone, List.append_nil]

def putJoined (groups : List (String × List Section)) (pairs : List (String × String)) :
    List (String × String) :=
  groups.foldl (fun pairs group => match sectionsValue? group.2 with
    | some value => put group.1 value pairs
    | none => pairs) pairs

theorem putJoined_cons_none {key : String} {sections : List Section}
    {groups : List (String × List Section)} {pairs : List (String × String)}
    (h : sectionsValue? sections = none) :
    putJoined ((key, sections) :: groups) pairs = putJoined groups pairs := by
  simp [putJoined, h]

theorem putJoined_cons_some {key value : String} {sections : List Section}
    {groups : List (String × List Section)} {pairs : List (String × String)}
    (h : sectionsValue? sections = some value) :
    putJoined ((key, sections) :: groups) pairs = putJoined groups (put key value pairs) := by
  simp [putJoined, h]

theorem lookup_putJoined (name : String) {groups : List (String × List Section)}
    (h : (groups.map Prod.fst).Nodup) (pairs : List (String × String)) :
    (putJoined groups pairs).lookup name =
      ((groups.lookup name).bind sectionsValue?).or (pairs.lookup name) := by
  induction groups generalizing pairs with
  | nil => rfl
  | cons group groups ih =>
    obtain ⟨key, sections⟩ := group
    obtain ⟨hkey, hnodup⟩ := List.nodup_cons.mp h
    -- no later group is of this name
    have hnone : groups.lookup key = none := List.lookup_eq_none_iff.mpr fun group hg =>
      bne_iff_ne.mpr fun e => hkey (List.mem_map.mpr ⟨group, hg, e.symm⟩)
    rw [lookup_pair]
    cases hvalue : sectionsValue? sections with
    | none =>
      rw [putJoined_cons_none hvalue, ih hnodup]
      by_cases hn : name = key <;> simp [hn, hnone, hvalue]
    | some value =>
      rw [putJoined_cons_some hvalue, ih hnodup, lookup_put]
      by_cases hn : name = key <;> simp [hn, hnone, hvalue]

theorem keys_putJoined {name : String} {groups : List (String × List Section)}
    {pairs : List (String × String)} (h : name ∈ (putJoined groups pairs).map Prod.fst) :
    name ∈ groups.map Prod.fst ∨ name ∈ pairs.map Prod.fst := by
  induction groups generalizing pairs with
  | nil => exact .inr h
  | cons group groups ih =>
    obtain ⟨key, sections⟩ := group
    rw [List.map_cons, List.mem_cons]
    cases hvalue : sectionsValue? sections with
    | none =>
      rw [putJoined_cons_none hvalue] at h
      exact (ih h).imp_left .inr
    | some value =>
      rw [putJoined_cons_some hvalue] at h
      rcases ih h with h | h
      · exact .inl (.inr h)
      · exact (mem_keys_put.mp h).imp_left .inl

theorem exists_part_of_mem_keys {name : String} {entries : List Entry}
    (h : name ∈ (sectionGroups entries).map Prod.fst) : ∃ s, .part name s ∈ entries := by
  induction entries using List.reverseRecOn with
  | nil => exact absurd h List.not_mem_nil
  | append_singleton entries e ih =>
    rw [sectionGroups_concat] at h
    cases e with
    | plain =>
      obtain ⟨s, hs⟩ := ih h
      exact ⟨s, List.mem_append_left _ hs⟩
    | part key s =>
      simp only [keys_addSection] at h
      by_cases hn : name = key
      · exact ⟨s, hn ▸ List.mem_append_right _ List.mem_cons_self⟩
      · obtain ⟨t, ht⟩ := ih (by split at h <;> simp_all)
        exact ⟨t, List.mem_append_left _ ht⟩

theorem exists_plain_of_mem_keys {name : String} {entries : List Entry}
    (h : name ∈ (plainPairs entries).map Prod.fst) : ∃ value, .plain name value ∈ entries := by
  obtain ⟨⟨key, value⟩, hpair, rfl⟩ := List.mem_map.mp h
  obtain ⟨e, he, hvalue⟩ := List.mem_filterMap.mp hpair
  cases e with
  | part => exact nomatch hvalue
  | plain key' value' =>
    obtain ⟨rfl, rfl⟩ := Prod.mk.inj (Option.some.inj hvalue)
    exact ⟨_, he⟩

theorem lowered_of_mem_ofSegments {name : String} {segments : List (List Char)}
    (h : name ∈ (ofSegments segments).pairs.map Prod.fst) : Lowered name := by
  have hentry : ∃ e ∈ segments.filterMap Entry.ofSegment?, e.name = name := by
    rcases keys_putJoined h with h | h
    · exact (exists_part_of_mem_keys h).elim fun s hs => ⟨_, hs, rfl⟩
    · exact (exists_plain_of_mem_keys h).elim fun value hv => ⟨_, hv, rfl⟩
  obtain ⟨e, he, rfl⟩ := hentry
  obtain ⟨segment, -, hread⟩ := List.mem_filterMap.mp he
  exact Entry.lowered_name hread

theorem get?_eq_lookup {pairs : List (String × String)} (key : String)
    (h : ∀ name ∈ pairs.map Prod.fst, Lowered name) :
    get? ⟨pairs⟩ key = pairs.lookup (Text.lowerAscii key) := by
  induction pairs with
  | nil => rfl
  | cons pair rest ih =>
    obtain ⟨name, value⟩ := pair
    rw [List.map_cons, List.forall_mem_cons] at h
    have hsame : Text.sameAscii name key = true ↔ Text.lowerAscii key = name := by
      have hname : Text.lowerAscii name = name := h.1
      rw [Text.sameAscii_iff, hname, eq_comm]
    rw [lookup_pair, ← ih h.2, get?, List.find?_cons]
    by_cases hkey : Text.lowerAscii key = name
    · rw [if_pos hkey, hsame.mpr hkey]
      rfl
    · rw [if_neg hkey, Bool.eq_false_iff.mpr (mt hsame.mp hkey)]
      rfl

theorem lookup_ofSegments (segments : List (List Char)) (name : String) :
    (ofSegments segments).pairs.lookup name =
      valueOf? name (segments.filterMap Entry.ofSegment?) := by
  rw [valueOf?, joinedValue?, ← lookup_plainPairs]
  refine (lookup_putJoined _ (nodup_keys_sectionGroups _) _).trans ?_
  rw [lookup_sectionGroups]
  split <;> rfl

theorem get?_ofSegments (segments : List (List Char)) (key : String) :
    (ofSegments segments).get? key =
      valueOf? (Text.lowerAscii key) (segments.filterMap Entry.ofSegment?) := by
  rw [get?_eq_lookup key fun name => lowered_of_mem_ofSegments]
  exact lookup_ofSegments segments _

end Mailroom.Mime.Parameters
