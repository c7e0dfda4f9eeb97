import Mailroom.Mime.Parameters
import Mailroom.Proofs.Text.Blank
import Mailroom.Proofs.Text.Cut

/-!
# Quoted parameters are read back

A quoted string with its escapes is closed: a semicolon inside it separates nothing. So a
value that is put together from closed pieces is cut between them, and a quoted parameter is
read as the value that was quoted.
-/

namespace Mailroom.Mime.Parameters

def escapeChar (c : Char) : List Char := if c = '"' ∨ c = '\\' then ['\\', c] else [c]

def quote (cs : List Char) : List Char := '"' :: (cs.flatMap escapeChar ++ ['"'])

-- ---------------------------------------------------------------------------
-- Segments
-- ---------------------------------------------------------------------------

theorem foldr_extendFirst (cs segment : List Char) (rest : List (List Char)) :
    cs.foldr extendFirst (segment :: rest) = (cs ++ segment) :: rest := by
  induction cs with
  | nil => rfl
  | cons c cs ih => simp [ih, extendFirst]

/-- A piece of a value in which no segment ends and after which no quote is open. -/
def Closed (cs : List Char) : Prop :=
  ∀ rest, segmentsFrom false false (cs ++ rest) = cs.foldr extendFirst (segmentsFrom false false rest)

theorem Closed.append {a b : List Char} (ha : Closed a) (hb : Closed b) : Closed (a ++ b) := by
  intro rest
  rw [List.append_assoc, ha, hb, List.foldr_append]

theorem closed_of_not_mem {cs : List Char} (hs : ';' ∉ cs) (hq : '"' ∉ cs) : Closed cs := by
  intro rest
  induction cs with
  | nil => rfl
  | cons c cs ih =>
    simp only [List.mem_cons, not_or] at hs hq
    simp [segmentsFrom, Ne.symm hs.1, Ne.symm hq.1, ih hs.2 hq.2]

/-- How a text may stand inside quotes: a quote or a backslash only behind a backslash, any other
character also without one. -/
inductive Escapes : List Char → List Char → Prop
  | nil : Escapes [] []
  | plain {c : Char} {cs written : List Char} (hq : c ≠ '"') (hb : c ≠ '\\') (h : Escapes cs written) :
      Escapes (c :: cs) (c :: written)
  | escaped (c : Char) {cs written : List Char} (h : Escapes cs written) :
      Escapes (c :: cs) ('\\' :: c :: written)

theorem escapes_escapeChar (cs : List Char) : Escapes cs (cs.flatMap escapeChar) := by
  induction cs with
  | nil => exact .nil
  | cons c cs ih =>
    rw [List.flatMap_cons, escapeChar]
    split
    · exact .escaped c ih
    · next h =>
      obtain ⟨hq, hb⟩ := not_or.mp h
      exact .plain hq hb ih

theorem Escapes.segmentsFrom {cs written : List Char} (h : Escapes cs written) (rest : List Char) :
    segmentsFrom true false (written ++ '"' :: rest) =
      (written ++ ['"']).foldr extendFirst (segmentsFrom false false rest) := by
  induction h with
  | nil => simp [Parameters.segmentsFrom]
  | plain hq hb _ ih => simp [Parameters.segmentsFrom, hq, hb, ih]
  | escaped c _ ih => simp [Parameters.segmentsFrom, ih]

theorem Escapes.closed {cs written : List Char} (h : Escapes cs written) :
    Closed ('"' :: (written ++ ['"'])) := by
  intro rest
  have hinner := h.segmentsFrom rest
  simp only [List.cons_append, List.append_assoc, List.nil_append, List.foldr_cons, ← hinner]
  simp [Parameters.segmentsFrom]

theorem closed_quote (cs : List Char) : Closed (quote cs) := (escapes_escapeChar cs).closed

theorem segments_closed {head : List Char} {pieces : List (List Char)} (hh : Closed head)
    (hp : ∀ p ∈ pieces, Closed p) :
    segments (head ++ pieces.flatMap fun p => ';' :: p) = head :: pieces := by
  unfold segments
  induction pieces generalizing head with
  | nil =>
    rw [List.flatMap_nil, hh]
    simp [segmentsFrom, foldr_extendFirst]
  | cons p pieces ih =>
    have htail := ih (hp p List.mem_cons_self) fun q hq => hp q (List.mem_cons_of_mem _ hq)
    rw [List.flatMap_cons, hh, List.cons_append]
    simp [segmentsFrom, htail, foldr_extendFirst]

theorem split_closed {head : List Char} {pieces : List (List Char)} (hh : Closed head)
    (hp : ∀ p ∈ pieces, Closed p) :
    split (String.ofList (head ++ pieces.flatMap fun p => ';' :: p)) =
      (String.ofList (Text.trim head), ofSegments pieces) := by
  simp only [split, String.toList_ofList, segments_closed hh hp]

-- ---------------------------------------------------------------------------
-- Quoted values
-- ---------------------------------------------------------------------------

theorem Escapes.unquote {cs written : List Char} (h : Escapes cs written) :
    unquote ('"' :: (written ++ ['"'])) = cs := by
  show quotedContent (written ++ ['"']) = cs
  induction h with
  | nil => simp [quotedContent]
  | plain hq hb _ ih => simp [quotedContent, hq, hb, ih]
  | escaped c _ ih => simp [quotedContent, ih]

theorem unquote_quote (cs : List Char) : unquote (quote cs) = cs := (escapes_escapeChar cs).unquote

theorem trimmed_quoted (written : List Char) : Text.Trimmed ('"' :: (written ++ ['"'])) := by
  have hq : Text.isBlank '"' = false := by decide
  refine ⟨fun c hc => ?_, fun c hc => ?_⟩
  · rw [List.head?_cons, Option.mem_some_iff] at hc
    exact hc ▸ hq
  · rw [← List.cons_append, List.getLast?_concat, Option.mem_some_iff] at hc
    exact hc ▸ hq

theorem eq_of_toLower_eq {c d : Char} (h : c.toLower = d) (hd : d.toNat < 97) : c = d := by
  unfold Char.toLower at h
  split at h
  · next hc =>
    exfalso
    have h1 : 65 ≤ c.val.toNat := hc.1
    have h2 : c.val.toNat ≤ 90 := hc.2
    have e : d.toNat = (c.val + ('a'.val - 'A'.val)).toNat := by rw [← h]; rfl
    rw [UInt32.toNat_add, show ('a'.val - 'A'.val).toNat = 32 from rfl] at e
    omega
  · exact h

theorem Entry.ofSegment?_append {key value : List Char} (before behind front after : List Char)
    (hb : ∀ c ∈ before, Text.isBlank c = true) (hk : Text.Trimmed key) (hne : key ≠ [])
    (he : '=' ∉ key) (hbe : ∀ c ∈ behind, Text.isBlank c = true)
    (hf : ∀ c ∈ front, Text.isBlank c = true) (hv : Text.Trimmed value)
    (ha : ∀ c ∈ after, Text.isBlank c = true) :
    Entry.ofSegment? (before ++ key ++ behind ++ '=' :: (front ++ value ++ after)) =
      match Text.cut ['*'] (key.map Char.toLower) with
      | none => some (.plain (String.ofList (key.map Char.toLower)) (String.ofList (unquote value)))
      | some (base, mark) => (Section.ofMark? mark (unquote value)).map (.part (String.ofList base)) := by
  have heq : Text.isBlank '=' = false := by decide
  have hcut : '=' ∉ before ++ key ++ behind := by
    simp only [List.mem_append, not_or]
    refine ⟨⟨fun h => ?_, he⟩, fun h => ?_⟩
    · exact absurd (hb _ h) (by simp [heq])
    · exact absurd (hbe _ h) (by simp [heq])
  have hempty : (key.map Char.toLower).isEmpty = false := by simpa using hne
  unfold Entry.ofSegment?
  rw [Text.cut_singleton_append _ hcut]
  simp only [Option.bind_eq_bind, Option.bind_some]
  rw [Text.trim_append _ _ hb hbe hk, Text.trim_append _ _ hf ha hv, hempty]
  cases Text.cut ['*'] (key.map Char.toLower) with
  | none => rfl
  | some parts => exact (Option.map_eq_bind ..).symm

theorem Entry.ofSegment?_quote {key : List Char} (before behind front value after : List Char)
    (hb : ∀ c ∈ before, Text.isBlank c = true) (hk : Text.Trimmed key) (hne : key ≠ [])
    (he : '=' ∉ key) (hs : '*' ∉ key) (hbe : ∀ c ∈ behind, Text.isBlank c = true)
    (hf : ∀ c ∈ front, Text.isBlank c = true) (ha : ∀ c ∈ after, Text.isBlank c = true) :
    Entry.ofSegment? (before ++ key ++ behind ++ '=' :: (front ++ quote value ++ after)) =
      some (.plain (String.ofList (key.map Char.toLower)) (String.ofList value)) := by
  have hstar : '*' ∉ key.map Char.toLower := by
    intro h
    obtain ⟨c, hc, hlow⟩ := List.mem_map.mp h
    exact hs (eq_of_toLower_eq hlow (by decide) ▸ hc)
  have hquote : Text.Trimmed (quote value) := trimmed_quoted _
  rw [Entry.ofSegment?_append before behind front after hb hk hne he hbe hf hquote ha,
    Text.cut_singleton_of_not_mem hstar, unquote_quote]

-- ---------------------------------------------------------------------------
-- Whole values
-- ---------------------------------------------------------------------------

structure Key (key : List Char) : Prop where
  named : key ≠ []
  trimmed : Text.Trimmed key
  lower : key.map Char.toLower = key
  closed : ';' ∉ key ∧ '"' ∉ key
  token : '=' ∉ key ∧ '*' ∉ key
  onLine : '\r' ∉ key ∧ '\n' ∉ key

instance (key : List Char) : Decidable (Key key) :=
  decidable_of_iff
    (key ≠ [] ∧ Text.Trimmed key ∧ key.map Char.toLower = key ∧ (';' ∉ key ∧ '"' ∉ key) ∧
      ('=' ∉ key ∧ '*' ∉ key) ∧ '\r' ∉ key ∧ '\n' ∉ key)
    ⟨fun ⟨a, b, c, d, e, f⟩ => ⟨a, b, c, d, e, f⟩, fun ⟨a, b, c, d, e, f⟩ => ⟨a, b, c, d, e, f⟩⟩

def segment (pair : String × String) : List Char :=
  ' ' :: (pair.1.toList ++ '=' :: quote pair.2.toList)

def write (token : String) (pairs : List (String × String)) : String :=
  String.ofList (token.toList ++ (pairs.map segment).flatMap fun s => ';' :: s)

theorem closed_segment {pair : String × String} (h : Key pair.1.toList) : Closed (segment pair) := by
  have hkey : Closed (' ' :: (pair.1.toList ++ ['='])) := by
    refine closed_of_not_mem ?_ ?_
    · simp [h.closed.1]
    · simp [h.closed.2]
  simpa [segment] using hkey.append (closed_quote pair.2.toList)

theorem Entry.ofSegment?_segment {pair : String × String} (h : Key pair.1.toList) :
    Entry.ofSegment? (segment pair) = some (.plain pair.1 pair.2) := by
  have hspace : ∀ c ∈ [' '], Text.isBlank c = true := List.forall_mem_singleton.mpr rfl
  have := Entry.ofSegment?_quote [' '] [] [] pair.2.toList [] hspace h.trimmed h.named h.token.1
    h.token.2 (by simp) (by simp) (by simp)
  simpa [segment, h.lower] using this

theorem plainPairs_plain (pairs : List (String × String)) :
    plainPairs (pairs.map fun p => .plain p.1 p.2) = pairs := by
  induction pairs with
  | nil => rfl
  | cons p pairs ih =>
    simp only [plainPairs] at ih ⊢
    simp [ih]

theorem sectionGroups_plain (pairs : List (String × String)) :
    sectionGroups (pairs.map fun p => .plain p.1 p.2) = [] := by
  unfold sectionGroups
  induction pairs with
  | nil => rfl
  | cons p pairs ih => exact ih

theorem ofSegments_plain {segments : List (List Char)} {pairs : List (String × String)}
    (h : segments.filterMap Entry.ofSegment? = pairs.map fun p => .plain p.1 p.2) :
    ofSegments segments = ⟨pairs⟩ := by
  simp only [ofSegments, h, sectionGroups_plain, plainPairs_plain, List.foldl_nil]

theorem filterMap_segment {pairs : List (String × String)} (h : ∀ p ∈ pairs, Key p.1.toList) :
    (pairs.map segment).filterMap Entry.ofSegment? = pairs.map fun p => .plain p.1 p.2 := by
  induction pairs with
  | nil => rfl
  | cons p pairs ih =>
    rw [List.map_cons, List.filterMap_cons, Entry.ofSegment?_segment (h p List.mem_cons_self),
      ih fun q hq => h q (List.mem_cons_of_mem _ hq)]
    rfl

theorem split_write {token : String} {pairs : List (String × String)} (hs : ';' ∉ token.toList)
    (hq : '"' ∉ token.toList) (ht : Text.Trimmed token.toList)
    (h : ∀ p ∈ pairs, Key p.1.toList) : split (write token pairs) = (token, ⟨pairs⟩) := by
  have hclosed : ∀ s ∈ pairs.map segment, Closed s := by
    intro s hs
    obtain ⟨p, hp, rfl⟩ := List.mem_map.mp hs
    exact closed_segment (h p hp)
  rw [write, split_closed (closed_of_not_mem hs hq) hclosed, Text.trim_of_trimmed ht,
    String.ofList_toList, ofSegments_plain (filterMap_segment h)]

theorem not_mem_write {c : Char} {token : String} {pairs : List (String × String)}
    (hc : c ∉ [';', ' ', '=', '"', '\\']) (ht : c ∉ token.toList)
    (h : ∀ p ∈ pairs, c ∉ p.1.toList ∧ c ∉ p.2.toList) : c ∉ (write token pairs).toList := by
  simp only [List.mem_cons, List.not_mem_nil, or_false, not_or] at hc
  obtain ⟨hsemi, hspace, hequals, hquote, hslash⟩ := hc
  have hescape : ∀ d, c ∈ escapeChar d → c = d := by
    intro d hd
    unfold escapeChar at hd
    split at hd <;> simp_all
  intro hm
  simp only [write, String.toList_ofList, List.mem_append, List.mem_flatMap, List.mem_map] at hm
  rcases hm with hm | ⟨_, ⟨p, hp, rfl⟩, hm⟩
  · exact ht hm
  · simp only [segment, quote, List.mem_cons, List.mem_append, List.mem_flatMap, List.not_mem_nil,
      or_false, hsemi, hspace, hequals, hquote, false_or] at hm
    rcases hm with hm | ⟨d, hd, hm⟩
    · exact (h p hp).1 hm
    · exact (h p hp).2 (hescape d hm ▸ hd)

theorem trimmed_write {token : String} {pairs : List (String × String)}
    (hne : token.toList ≠ []) (ht : Text.Trimmed token.toList) :
    Text.Trimmed (write token pairs).toList := by
  have hq : Text.isBlank '"' = false := by decide
  obtain ⟨d, rest, hd⟩ := List.exists_cons_of_ne_nil hne
  refine ⟨?_, ?_⟩
  · intro c hc
    refine ht.1 c ?_
    simpa [write, hd] using hc
  · intro c hc
    rcases List.eq_nil_or_concat pairs with rfl | ⟨front, p, rfl⟩
    · exact ht.2 c (by simpa [write] using hc)
    · -- the last character closes the last quote
      have hend : (write token (front ++ [p])).toList =
          token.toList ++ ((front.map segment).flatMap fun s => ';' :: s) ++
            ';' :: ' ' :: p.1.toList ++ '=' :: '"' :: p.2.toList.flatMap escapeChar ++ ['"'] := by
        simp [write, segment, quote]
      rw [List.concat_eq_append, hend, List.getLast?_concat, Option.mem_some_iff] at hc
      exact hc ▸ hq

end Mailroom.Mime.Parameters
