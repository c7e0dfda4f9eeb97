import Mathlib.Data.List.Forall2
import Mailroom.Proofs.Mime.Header
import Mailroom.Proofs.Text.Case

/-!
# Folded fields are read back

The value of a field may be cut into chunks that stand on lines of their own, with spaces and tabs
around them. `Headers.parse_folded` says that such fields are read as their names and the chunks
that are not empty, whichever line ends they have, and that lines which are no part of a field change
nothing, wherever they stand.
-/

namespace Mailroom.Mime

-- ---------------------------------------------------------------------------
-- Folded fields
-- ---------------------------------------------------------------------------

/-- A field whose value is cut into chunks, one for each of its lines. -/
structure Folded where
  name : String
  chunks : List (List Char)

def OnLine (cs : List Char) : Prop := '\r' ∉ cs ∧ '\n' ∉ cs

instance (cs : List Char) : Decidable (OnLine cs) := inferInstanceAs (Decidable (_ ∧ _))

def Gap (cs : List Char) : Prop := ∀ c ∈ cs, c = ' ' ∨ c = '\t'

instance (cs : List Char) : Decidable (Gap cs) := List.decidableBAll _ cs

/-- Nothing of the name or of a chunk is lost by trimming, and no line ends inside them. -/
structure Folded.Sound (f : Folded) : Prop where
  named : f.name.toList ≠ []
  nameTrimmed : Text.Trimmed f.name.toList
  nameOnLine : ':' ∉ f.name.toList ∧ OnLine f.name.toList
  chunks : ∀ chunk ∈ f.chunks, Text.Trimmed chunk ∧ OnLine chunk

instance (f : Folded) : Decidable f.Sound :=
  decidable_of_iff
    (f.name.toList ≠ [] ∧ Text.Trimmed f.name.toList ∧ (':' ∉ f.name.toList ∧ OnLine f.name.toList) ∧
      ∀ chunk ∈ f.chunks, Text.Trimmed chunk ∧ OnLine chunk)
    ⟨fun ⟨a, b, c, d⟩ => ⟨a, b, c, d⟩, fun ⟨a, b, c, d⟩ => ⟨a, b, c, d⟩⟩

def joinChunks (chunks : List (List Char)) : String :=
  String.ofList (Text.joinWith [' '] (chunks.filter (!·.isEmpty)))

def Folded.field (f : Folded) : Field := ⟨f.name, joinChunks f.chunks⟩

inductive Continues (chunk : List Char) : List Char → Prop
  | intro {c : Char} {front after : List Char} (hc : c = ' ' ∨ c = '\t') (hf : Gap front)
      (ha : Gap after) : Continues chunk (c :: (front ++ chunk ++ after))

inductive Folded.Writes : Folded → List (List Char) → Prop
  | bare (name : String) {gap : List Char} (hg : Gap gap) :
      Writes ⟨name, []⟩ [name.toList ++ ':' :: gap]
  | chunks (name : String) {chunk front after : List Char} {chunks lines : List (List Char)}
      (hf : Gap front) (ha : Gap after) (h : List.Forall₂ Continues chunks lines) :
      Writes ⟨name, chunk :: chunks⟩ ((name.toList ++ ':' :: (front ++ chunk ++ after)) :: lines)

/-- A line that neither opens a field nor continues one. -/
structure Idle (line : List Char) : Prop where
  notEmpty : line ≠ []
  start : line.head? ≠ some ' ' ∧ line.head? ≠ some '\t'
  noColon : ':' ∉ line
  onLine : OnLine line

inductive Strewn : List (List Char) → List (List Char) → Prop
  | nil : Strewn [] []
  | keep (line : List Char) {lines all : List (List Char)} (h : Strewn lines all) :
      Strewn (line :: lines) (line :: all)
  | idle {line : List Char} {lines all : List (List Char)} (hi : Idle line) (h : Strewn lines all) :
      Strewn lines (line :: all)

inductive Ended : List (List Char) → List Char → Prop
  | nil : Ended [] []
  | lf (line : List Char) {lines : List (List Char)} {text : List Char} (h : Ended lines text) :
      Ended (line :: lines) (line ++ '\n' :: text)
  | crlf (line : List Char) {lines : List (List Char)} {text : List Char} (h : Ended lines text) :
      Ended (line :: lines) (line ++ '\r' :: '\n' :: text)

-- ---------------------------------------------------------------------------
-- Written lines
-- ---------------------------------------------------------------------------

theorem Gap.blank {cs : List Char} (h : Gap cs) : ∀ c ∈ cs, Text.isBlank c = true := by
  intro c hc
  rcases h c hc with rfl | rfl <;> rfl

theorem Gap.onLine {cs : List Char} (h : Gap cs) : OnLine cs := by
  constructor
  · intro hm
    exact absurd (h _ hm) (by decide)
  · intro hm
    exact absurd (h _ hm) (by decide)

theorem OnLine.append {a b : List Char} (ha : OnLine a) (hb : OnLine b) : OnLine (a ++ b) :=
  ⟨List.not_mem_append ha.1 hb.1, List.not_mem_append ha.2 hb.2⟩

theorem OnLine.cons {c : Char} {cs : List Char} (hr : '\r' ≠ c) (hn : '\n' ≠ c) (h : OnLine cs) :
    OnLine (c :: cs) :=
  ⟨List.not_mem_cons_of_ne_of_not_mem hr h.1, List.not_mem_cons_of_ne_of_not_mem hn h.2⟩

def Full (line : List Char) : Prop := line ≠ [] ∧ OnLine line

theorem Continues.full {chunk line : List Char} (h : Continues chunk line) (hc : OnLine chunk) :
    Full line := by
  obtain ⟨hmark, hf, ha⟩ := h
  refine ⟨List.cons_ne_nil _ _, ?_⟩
  rcases hmark with rfl | rfl
  · exact ((hf.onLine.append hc).append ha.onLine).cons (by decide) (by decide)
  · exact ((hf.onLine.append hc).append ha.onLine).cons (by decide) (by decide)

theorem full_opening {name rest : List Char} (hn : OnLine name) (hr : OnLine rest) :
    Full (name ++ ':' :: rest) :=
  ⟨by simp, hn.append (hr.cons (by decide) (by decide))⟩

theorem full_continuations {chunks lines : List (List Char)} (h : List.Forall₂ Continues chunks lines)
    (hc : ∀ chunk ∈ chunks, OnLine chunk) : ∀ line ∈ lines, Full line := by
  induction h with
  | nil => simp
  | cons h _ ih =>
    simp only [List.forall_mem_cons] at hc ⊢
    exact ⟨h.full hc.1, ih hc.2⟩

theorem Folded.Writes.full {f : Folded} {lines : List (List Char)} (h : f.Writes lines)
    (hf : f.Sound) : ∀ line ∈ lines, Full line := by
  cases h with
  | bare name hg =>
    simp only [List.forall_mem_singleton]
    exact full_opening hf.nameOnLine.2 hg.onLine
  | chunks name hfront hafter h =>
    have hchunks := fun chunk hm => (hf.chunks chunk hm).2
    simp only [List.forall_mem_cons] at hchunks ⊢
    refine ⟨full_opening hf.nameOnLine.2 ?_, full_continuations h hchunks.2⟩
    exact (hfront.onLine.append hchunks.1).append hafter.onLine

theorem full_flatten {fields : List Folded} {written : List (List (List Char))}
    (h : List.Forall₂ Folded.Writes fields written) (hf : ∀ f ∈ fields, f.Sound) :
    ∀ line ∈ written.flatten, Full line := by
  induction h with
  | nil => simp
  | cons h _ ih =>
    simp only [List.forall_mem_cons] at hf
    simp only [List.flatten_cons, List.forall_mem_append]
    exact ⟨h.full hf.1, ih hf.2⟩

theorem Strewn.full {lines all : List (List Char)} (h : Strewn lines all)
    (hl : ∀ line ∈ lines, Full line) : ∀ line ∈ all, Full line := by
  induction h with
  | nil => simp
  | keep line _ ih =>
    simp only [List.forall_mem_cons] at hl ⊢
    exact ⟨hl.1, ih hl.2⟩
  | idle hi _ ih =>
    simp only [List.forall_mem_cons]
    exact ⟨⟨hi.notEmpty, hi.onLine⟩, ih hl⟩

theorem Ended.lines {lines : List (List Char)} {text : List Char} (h : Ended lines text)
    (hl : ∀ line ∈ lines, OnLine line) (rest : List Char) :
    Text.lines (text ++ rest) = lines ++ Text.lines rest := by
  induction h with
  | nil => rfl
  | lf line _ ih =>
    simp only [List.forall_mem_cons] at hl
    have hreturn : ¬ ['\r'] <:+ line := fun hs => hl.1.1 (hs.subset List.mem_cons_self)
    rw [List.append_assoc, List.cons_append, Text.lines_lf _ hl.1.2 hreturn, ih hl.2,
      List.cons_append]
  | crlf line _ ih =>
    simp only [List.forall_mem_cons] at hl
    rw [List.append_assoc, List.cons_append, List.cons_append, Text.lines_crlf _ hl.1.2, ih hl.2,
      List.cons_append]

-- ---------------------------------------------------------------------------
-- Reading
-- ---------------------------------------------------------------------------

namespace Headers

theorem unfold_joinChunks (chunks : List (List Char)) (chunk : List Char) :
    unfold (joinChunks chunks) chunk = joinChunks (chunks ++ [chunk]) := by
  unfold unfold joinChunks
  split
  · next hempty => simp [hempty]
  · next hempty =>
    have hlast : ([chunk].filter fun cs => !cs.isEmpty) = [chunk] := by simp [hempty]
    have hfull : ∀ cs ∈ chunks.filter fun cs => !cs.isEmpty, cs ≠ [] := fun cs hcs => by
      simpa using (List.mem_filter.mp hcs).2
    rw [List.filter_append, hlast]
    generalize chunks.filter (fun cs => !cs.isEmpty) = before at hfull ⊢
    split
    · next hnone =>
      -- the value has no text yet, so no space stands before the chunk
      have hbefore : before = [] := by
        by_contra hne
        exact Text.joinWith_ne_nil hne hfull (by simpa using hnone)
      subst hbefore
      rfl
    · next hsome =>
      have hne : before ≠ [] := by
        rintro rfl
        exact hsome rfl
      rw [Text.joinWith_concat [' '] chunk hne, String.ofList_append, String.ofList_append]

theorem absorb_continuation {chunk line : List Char} (h : Continues chunk line)
    (hc : Text.Trimmed chunk) (name : String) (chunks : List (List Char)) (earlier : List Field) :
    absorb (⟨name, joinChunks chunks⟩ :: earlier) line =
      ⟨name, joinChunks (chunks ++ [chunk])⟩ :: earlier := by
  obtain @⟨c, front, after, hmark, hf, ha⟩ := h
  have hfront : Gap (c :: front) := List.forall_mem_cons.mpr ⟨hmark, hf⟩
  have htrim : Text.trim (c :: (front ++ chunk ++ after)) = chunk :=
    Text.trim_append (c :: front) after hfront.blank ha.blank hc
  have hcontinues : (decide (c = ' ') || decide (c = '\t')) = true := by simpa using hmark
  simp only [absorb, hcontinues, if_true, htrim, unfold_joinChunks]

theorem foldl_absorb_continuations {chunks lines : List (List Char)}
    (h : List.Forall₂ Continues chunks lines) (hc : ∀ chunk ∈ chunks, Text.Trimmed chunk)
    (name : String) (before : List (List Char)) (earlier : List Field) :
    lines.foldl absorb (⟨name, joinChunks before⟩ :: earlier) =
      ⟨name, joinChunks (before ++ chunks)⟩ :: earlier := by
  -- every line adds its chunk behind `before`, so the induction is for any of these
  induction h generalizing before with
  | nil => simp
  | cons h _ ih =>
    simp only [List.forall_mem_cons] at hc
    rw [List.foldl_cons, absorb_continuation h hc.1, ih hc.2, List.append_assoc]
    rfl

theorem foldl_absorb_writes {f : Folded} {lines : List (List Char)} (h : f.Writes lines)
    (hf : f.Sound) (earlier : List Field) :
    lines.foldl absorb earlier = f.field :: earlier := by
  cases h with
  | bare name hg =>
    rw [List.foldl_cons, absorb_opening hf.named hf.nameTrimmed hf.nameOnLine.1,
      Text.trim_eq_nil_iff.mpr hg.blank, String.ofList_toList]
    rfl
  | @chunks name chunk front after chunks lines hfront hafter h =>
    have htrimmed := fun cs hm => (hf.chunks cs hm).1
    simp only [List.forall_mem_cons] at htrimmed
    have hfirst : String.ofList chunk = joinChunks [chunk] := by
      cases chunk <;> rfl
    rw [List.foldl_cons, absorb_opening hf.named hf.nameTrimmed hf.nameOnLine.1,
      Text.trim_append front after hfront.blank hafter.blank htrimmed.1, String.ofList_toList,
      hfirst, foldl_absorb_continuations h htrimmed.2]
    rfl

theorem foldl_absorb_flatten {fields : List Folded} {written : List (List (List Char))}
    (h : List.Forall₂ Folded.Writes fields written) (hf : ∀ f ∈ fields, f.Sound)
    (earlier : List Field) :
    written.flatten.foldl absorb earlier = (fields.map Folded.field).reverse ++ earlier := by
  induction h generalizing earlier with
  | nil => rfl
  | cons h _ ih =>
    simp only [List.forall_mem_cons] at hf
    rw [List.flatten_cons, List.foldl_append, foldl_absorb_writes h hf.1, ih hf.2]
    simp

theorem absorb_idle {line : List Char} (h : Idle line) (latest : List Field) :
    absorb latest line = latest := by
  obtain ⟨c, rest, rfl⟩ := List.exists_cons_of_ne_nil h.notEmpty
  obtain ⟨hspace, htab⟩ : c ≠ ' ' ∧ c ≠ '\t' := by simpa using h.start
  simp [absorb, hspace, htab, Text.cut_singleton_of_not_mem h.noColon]

theorem foldl_absorb_strewn {lines all : List (List Char)} (h : Strewn lines all)
    (latest : List Field) : all.foldl absorb latest = lines.foldl absorb latest := by
  induction h generalizing latest with
  | nil => rfl
  | keep line _ ih => exact ih (absorb latest line)
  | idle hi _ ih => rw [List.foldl_cons, absorb_idle hi, ih]

theorem parse_ended {lines : List (List Char)} {block : List Char} (h : Ended (lines ++ [[]]) block)
    (hl : ∀ line ∈ lines, Full line) (rest : List Char) :
    parse (String.ofList (block ++ rest)) = ⟨(lines.foldl absorb []).reverse⟩ := by
  have honline : ∀ line ∈ lines ++ [[]], OnLine line := by
    simp only [List.forall_mem_append, List.forall_mem_singleton]
    exact ⟨fun line hm => (hl line hm).2, by decide⟩
  have hfull : ∀ line ∈ lines, (!line.isEmpty) = true := fun line hm => by simpa using (hl line hm).1
  have htake : (lines ++ [[]] ++ Text.lines rest).takeWhile (!·.isEmpty) = lines := by
    rw [List.append_assoc, List.takeWhile_append_of_pos hfull]
    simp
  rw [parse, String.toList_ofList, h.lines honline, ofLines, htake]

/-- Fields that are folded in any way, with idle lines anywhere, are read back up to an empty line. -/
theorem parse_folded {fields : List Folded} {written : List (List (List Char))}
    {lines : List (List Char)} {block : List Char} (hf : ∀ f ∈ fields, f.Sound)
    (hw : List.Forall₂ Folded.Writes fields written) (hs : Strewn written.flatten lines)
    (he : Ended (lines ++ [[]]) block) (rest : List Char) :
    parse (String.ofList (block ++ rest)) = ⟨fields.map Folded.field⟩ ∧
      ∀ name, (parse (String.ofList (block ++ rest))).getAll name =
        (fields.filter fun f => Text.lowerAscii f.name = Text.lowerAscii name).map
          fun f => joinChunks f.chunks := by
  have hparse := parse_ended he (hs.full (full_flatten hw hf)) rest
  rw [foldl_absorb_strewn hs, foldl_absorb_flatten hw hf, List.append_nil,
    List.reverse_reverse] at hparse
  refine ⟨hparse, fun name => ?_⟩
  rw [hparse, getAll, List.filter_map, List.map_map]
  have hname (f : Folded) : Text.sameAscii f.name name =
      decide (Text.lowerAscii f.name = Text.lowerAscii name) := by
    rw [Bool.eq_iff_iff, Text.sameAscii_iff, decide_eq_true_iff]
  exact congrArg (List.map _) (List.filter_congr fun f _ => hname f)

namespace Crumpled

/-- An empty first chunk, one of white space alone, a field without chunks, and a name that comes
twice. -/
def fields : List Folded :=
  [⟨"Subject", [[], "first part".toList, [], "second".toList]⟩, ⟨"X-Empty", []⟩,
    ⟨"SUBJECT", ["third".toList]⟩]

def written : List (List (List Char)) :=
  [["Subject: ".toList, "\t first part \t".toList, " ".toList, " second".toList],
    ["X-Empty:".toList], ["SUBJECT:\tthird".toList]]

def lines : List (List Char) :=
  ["noise".toList, "Subject: ".toList, "\t first part \t".toList, "more noise".toList, " ".toList,
    " second".toList, "X-Empty:".toList, "SUBJECT:\tthird".toList, "noise".toList]

def block : List Char :=
  ("noise\r\nSubject: \n\t first part \t\nmore noise\n \r\n second\r\nX-Empty:\nSUBJECT:\tthird\r\n"
    ++ "noise\n\r\n").toList

theorem writes : List.Forall₂ Folded.Writes fields written := by
  have hspace : Gap [' '] := by decide
  have htab : Gap ['\t'] := by decide
  have hnone : Gap [] := by decide
  have hfirst : List.Forall₂ Continues ["first part".toList, [], "second".toList]
      ["\t first part \t".toList, " ".toList, " second".toList] :=
    .cons (@Continues.intro _ '\t' [' '] [' ', '\t'] (.inr rfl) hspace (by decide))
      (.cons (@Continues.intro _ ' ' [] [] (.inl rfl) hnone hnone)
        (.cons (@Continues.intro _ ' ' [] [] (.inl rfl) hnone hnone) .nil))
  exact .cons (@Folded.Writes.chunks "Subject" [] [' '] [] _ _ hspace hnone hfirst)
    (.cons (@Folded.Writes.bare "X-Empty" [] hnone)
      (.cons (@Folded.Writes.chunks "SUBJECT" "third".toList ['\t'] [] [] [] htab hnone .nil) .nil))

theorem idle : Idle "noise".toList ∧ Idle "more noise".toList :=
  ⟨⟨by decide, by decide, by decide, by decide⟩, ⟨by decide, by decide, by decide, by decide⟩⟩

theorem strewn : Strewn written.flatten lines :=
  .idle idle.1 (.keep _ (.keep _ (.idle idle.2 (.keep _ (.keep _ (.keep _ (.keep _
    (.idle idle.1 .nil))))))))

theorem ended : Ended (lines ++ [[]]) block :=
  .crlf _ (.lf _ (.lf _ (.lf _ (.crlf _ (.crlf _ (.lf _ (.crlf _ (.lf _ (.crlf _ .nil)))))))))

end Crumpled

theorem parse_folded_crumpled :
    (∀ f ∈ Crumpled.fields, f.Sound) ∧
      List.Forall₂ Folded.Writes Crumpled.fields Crumpled.written ∧
      Strewn Crumpled.written.flatten Crumpled.lines ∧
      Ended (Crumpled.lines ++ [[]]) Crumpled.block ∧
      parse (String.ofList (Crumpled.block ++ "To: body".toList)) =
        ⟨[⟨"Subject", "first part second"⟩, ⟨"X-Empty", ""⟩, ⟨"SUBJECT", "third"⟩]⟩ ∧
      (parse (String.ofList (Crumpled.block ++ "To: body".toList))).getAll "subject" =
        ["first part second", "third"] := by
  have hsound : ∀ f ∈ Crumpled.fields, f.Sound := by decide
  obtain ⟨hparse, hall⟩ :=
    parse_folded hsound Crumpled.writes Crumpled.strewn Crumpled.ended "To: body".toList
  exact ⟨hsound, Crumpled.writes, Crumpled.strewn, Crumpled.ended, hparse, hall "subject"⟩

end Headers

end Mailroom.Mime
