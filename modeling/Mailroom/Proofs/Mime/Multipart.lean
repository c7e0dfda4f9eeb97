import Mailroom.Proofs.Mime.Header

/-!
# Multipart bodies are cut where they were joined

Sections that hold no delimiter line of the boundary, written between such lines, come back
byte for byte: with line ends at their end, without any, and empty.
-/

namespace Mailroom.Mime.Multipart

-- ---------------------------------------------------------------------------
-- Delimiter lines
-- ---------------------------------------------------------------------------

/-- A line that begins with two hyphens and the boundary and goes on with two more hyphens, or
with blanks only. Its line end may stand with it. -/
def IsDelimiterLine (boundary : String) (line : List UInt8) : Prop :=
  ∃ rest, line = markOf boundary ++ rest ∧
    ([0x2d, 0x2d] <+: rest ∨ ∀ b ∈ rest, Text.isBlankByte b = true)

instance (boundary : String) (line : List UInt8) : Decidable (IsDelimiterLine boundary line) :=
  decidable_of_iff
    (((Text.dropPrefix? (markOf boundary) line).any fun rest =>
      [0x2d, 0x2d].isPrefixOf rest || rest.all Text.isBlankByte) = true)
    (by simp [Option.any_eq_true, Text.dropPrefix?_eq_some_iff, IsDelimiterLine])

theorem IsDelimiterLine.hyphen {boundary : String} {line : List UInt8}
    (h : IsDelimiterLine boundary line) : line.head? = some 0x2d := by
  obtain ⟨rest, rfl, -⟩ := h
  rfl

theorem exists_lineEnd (line : List UInt8) :
    ∃ lineEnd, line = lineContent line ++ lineEnd ∧ ∀ b ∈ lineEnd, Text.isBlankByte b = true := by
  have hstep : ∀ (stop : UInt8) (xs : List UInt8), Text.isBlankByte stop = true →
      ∃ cut, xs = (Text.dropSuffix? [stop] xs).getD xs ++ cut ∧
        ∀ b ∈ cut, Text.isBlankByte b = true := by
    intro stop xs hstop
    cases h : Text.dropSuffix? [stop] xs with
    | none => exact ⟨[], by simp, by simp⟩
    | some shorter =>
      exact ⟨[stop], Text.dropSuffix?_eq_some_iff.mp h, by simpa using hstop⟩
  obtain ⟨first, hfirst, bfirst⟩ := hstep lineFeed line (by decide)
  obtain ⟨second, hsecond, bsecond⟩ :=
    hstep carriageReturn ((Text.dropSuffix? [lineFeed] line).getD line) (by decide)
  refine ⟨second ++ first, ?_, ?_⟩
  · rw [← List.append_assoc]
    exact hfirst.trans (congrArg (· ++ first) hsecond)
  · intro b hb
    exact (List.mem_append.mp hb).elim (bsecond b) (bfirst b)

theorem delimiter?_eq_none {boundary : String} {line : List UInt8}
    (h : ¬ IsDelimiterLine boundary line) : delimiter? (markOf boundary) line = none := by
  obtain ⟨lineEnd, hline, hblank⟩ := exists_lineEnd line
  unfold delimiter?
  cases hd : Text.dropPrefix? (markOf boundary) (lineContent line) with
  | none => rfl
  | some rest =>
    have hcontent : line = markOf boundary ++ (rest ++ lineEnd) := by
      rw [← List.append_assoc, ← Text.dropPrefix?_eq_some_iff.mp hd]
      exact hline
    have hclosing : ¬ [0x2d, 0x2d] <+: rest := fun hp =>
      h ⟨_, hcontent, .inl (hp.trans (List.prefix_append rest lineEnd))⟩
    have hopening : ¬ ∀ b ∈ rest, Text.isBlankByte b = true := fun hb =>
      h ⟨_, hcontent, .inr fun b hm => (List.mem_append.mp hm).elim (hb b) (hblank b)⟩
    simp only [← List.all_eq_true] at hopening
    simp [hclosing, hopening]

def OnLine (boundary : String) : Prop := '\r' ∉ boundary.toList ∧ '\n' ∉ boundary.toList

instance (boundary : String) : Decidable (OnLine boundary) := inferInstanceAs (Decidable (_ ∧ _))

theorem OnLine.not_mem_markOf {boundary : String} (h : OnLine boundary) :
    carriageReturn ∉ markOf boundary ∧ lineFeed ∉ markOf boundary := by
  refine ⟨fun hm => ?_, fun hm => ?_⟩
  · simp only [markOf, List.mem_cons] at hm
    rcases hm with hm | hm | hm
    · exact absurd hm (by decide)
    · exact absurd hm (by decide)
    · exact h.1 (Text.Utf8.ofNat_mem_of_mem_encode hm (by decide))
  · simp only [markOf, List.mem_cons] at hm
    rcases hm with hm | hm | hm
    · exact absurd hm (by decide)
    · exact absurd hm (by decide)
    · exact h.2 (Text.Utf8.ofNat_mem_of_mem_encode hm (by decide))

theorem IsDelimiterLine.of_break {boundary : String} {line : List UInt8} (hb : OnLine boundary)
    (h : IsDelimiterLine boundary (line ++ lineBreak)) : IsDelimiterLine boundary line := by
  obtain ⟨rest, hline, hrest⟩ := h
  have hpre : markOf boundary <+: line := by
    rcases List.append_eq_append_iff.mp hline with ⟨t, ht, hbreak⟩ | ⟨t, ht, -⟩
    · cases t with
      | nil => simp [ht]
      | cons c t =>
        -- the mark would reach into the line break
        simp only [lineBreak, List.cons_append, List.cons.injEq] at hbreak
        exact absurd (by simp [ht, hbreak.1]) hb.not_mem_markOf.1
    · exact ⟨t, ht.symm⟩
  obtain ⟨t, rfl⟩ := hpre
  refine ⟨t, rfl, ?_⟩
  rw [List.append_assoc, List.append_cancel_left_eq] at hline
  subst hline
  rcases hrest with hrest | hrest
  · left
    cases t with
    | nil => simp [lineBreak, List.cons_prefix_cons, carriageReturn] at hrest
    | cons c t =>
      cases t with
      | nil => simp [lineBreak, List.cons_prefix_cons, carriageReturn] at hrest
      | cons d t => simpa [List.cons_prefix_cons] using hrest
  · exact .inr fun b hm => hrest b (List.mem_append_left _ hm)

-- ---------------------------------------------------------------------------
-- Bytes without delimiter lines
-- ---------------------------------------------------------------------------

def Calm (boundary : String) (raw : List UInt8) : Prop :=
  ∀ line ∈ Text.piecesAfter lineFeed raw, ¬ IsDelimiterLine boundary line

instance (boundary : String) (raw : List UInt8) : Decidable (Calm boundary raw) :=
  inferInstanceAs (Decidable (∀ line ∈ _, _))

theorem calm_nil (boundary : String) : Calm boundary [] := by
  intro line hline
  simp [Text.piecesAfter] at hline

theorem calm_of_not_mem {boundary : String} {raw : List UInt8} (h : 0x2d ∉ raw) :
    Calm boundary raw := by
  intro line hline hdel
  obtain ⟨rest, rfl, -⟩ := hdel
  exact h (Text.mem_of_mem_piecesAfter hline List.mem_cons_self)

theorem calm_line {boundary : String} {line : List UInt8} (hl : lineFeed ∉ line)
    (h : ¬ IsDelimiterLine boundary line) : Calm boundary line := by
  intro l hmem
  by_cases hne : line = []
  · simp [hne, Text.piecesAfter] at hmem
  · rw [Text.piecesAfter_of_not_mem hl hne, List.mem_singleton] at hmem
    exact hmem ▸ h

theorem Calm.append_break {boundary : String} {xs ys : List UInt8} (hb : OnLine boundary)
    (hx : Calm boundary xs) (hy : Calm boundary ys) : Calm boundary (xs ++ (lineBreak ++ ys)) := by
  obtain ⟨full, line, rfl, hline, hfull⟩ := Text.exists_lastLine lineFeed xs
  have hlf : lineFeed ∉ line ++ [carriageReturn] := by simp [hline]
  have hlast : ¬ IsDelimiterLine boundary line := by
    by_cases hne : line = []
    · subst hne
      exact fun hd => absurd hd.hyphen (by simp)
    · refine hx line ?_
      rw [hfull, Text.piecesAfter_of_not_mem hline hne]
      simp
  have hsplit : Text.piecesAfter lineFeed (line ++ (lineBreak ++ ys)) =
      (line ++ lineBreak) :: Text.piecesAfter lineFeed ys := by
    have := Text.piecesAfter_line_append ys hlf
    simpa [lineBreak] using this
  intro l hl
  rw [List.append_assoc, hfull, hsplit, List.mem_append, List.mem_cons] at hl
  rcases hl with hl | rfl | hl
  · refine hx l ?_
    rw [hfull]
    exact List.mem_append_left _ hl
  · exact fun hd => hlast (hd.of_break hb)
  · exact hy l hl

theorem not_isDelimiterLine_of_name {boundary : String} {f : Field} {c : Char}
    (hname : f.name.toList.head? = some c) (hc : c.toNat < 0x80) (hne : c ≠ '-') :
    ¬ IsDelimiterLine boundary (Text.Utf8.encode f.line) := by
  intro h
  obtain ⟨cs, hcs⟩ := List.head?_eq_some_iff.mp hname
  have hhead := h.hyphen
  simp only [Field.line, hcs, Text.Utf8.encode, List.cons_append, List.flatMap_cons,
    Text.Utf8.encodeChar_of_lt hc, List.nil_append, List.head?_cons, Option.some.injEq] at hhead
  have hval : c.toNat = 0x2d := by
    have := congrArg UInt8.toNat hhead
    rw [UInt8.toNat_ofNat'] at this
    simp at this
    omega
  exact hne (Char.toNat_inj.mp hval)

theorem calm_part {boundary : String} (hb : OnLine boundary) {p : Part}
    (hp : ∀ f ∈ p.headers.fields, f.Plain)
    (hf : ∀ f ∈ p.headers.fields, ¬ IsDelimiterLine boundary (Text.Utf8.encode f.line))
    (hbody : Calm boundary p.body) : Calm boundary p.write := by
  obtain ⟨⟨fields⟩, body⟩ := p
  simp only [Part.write] at *
  induction fields with
  | nil => simpa using (calm_nil boundary).append_break hb hbody
  | cons f fields ih =>
    have hrest := ih (fun g hg => hp g (List.mem_cons_of_mem _ hg))
      (fun g hg => hf g (List.mem_cons_of_mem _ hg))
    have hlf : lineFeed ∉ Text.Utf8.encode f.line := fun hm =>
      (hp f List.mem_cons_self).not_mem_line (Text.Utf8.ofNat_mem_of_mem_encode hm (by decide))
    have hline := calm_line hlf (hf f List.mem_cons_self)
    simpa [Field.write] using hline.append_break hb hrest

-- ---------------------------------------------------------------------------
-- Sections between delimiter lines
-- ---------------------------------------------------------------------------

/-- A multipart body as it is written: each section behind an opening delimiter, and a closing
one at the end. -/
def write (boundary : String) : List (List UInt8) → List UInt8
  | [] => markOf boundary ++ [0x2d, 0x2d] ++ lineBreak
  | s :: rest => markOf boundary ++ lineBreak ++ (s ++ lineBreak) ++ write boundary rest

theorem lineContent_break {xs : List UInt8} : lineContent (xs ++ lineBreak) = xs := by
  have h1 : Text.dropSuffix? [lineFeed] (xs ++ lineBreak) = some (xs ++ [carriageReturn]) :=
    Text.dropSuffix?_eq_some_iff.mpr (by simp [lineBreak])
  have h2 : Text.dropSuffix? [carriageReturn] (xs ++ [carriageReturn]) = some xs :=
    Text.dropSuffix?_eq_some_iff.mpr rfl
  simp [lineContent, h1, h2]

theorem withoutLineBreak_break (xs : List UInt8) : withoutLineBreak (xs ++ lineBreak) = xs := by
  have h : Text.dropSuffix? [carriageReturn, lineFeed] (xs ++ lineBreak) = some xs :=
    Text.dropSuffix?_eq_some_iff.mpr rfl
  simp [withoutLineBreak, h]

theorem delimiter?_opening (mark : List UInt8) :
    delimiter? mark (mark ++ lineBreak) = some .opening := by
  have h : Text.dropPrefix? mark mark = some [] := Text.dropPrefix?_eq_some_iff.mpr (by simp)
  simp only [delimiter?, lineContent_break, h]
  rfl

theorem delimiter?_closing (mark : List UInt8) :
    delimiter? mark (mark ++ [0x2d, 0x2d] ++ lineBreak) = some .closing := by
  have h : Text.dropPrefix? mark (mark ++ [0x2d, 0x2d]) = some [0x2d, 0x2d] :=
    Text.dropPrefix?_eq_some_iff.mpr rfl
  simp only [delimiter?, lineContent_break, h]
  rfl

theorem piecesAfter_break {line : List UInt8} (rest : List UInt8) (h : lineFeed ∉ line) :
    Text.piecesAfter lineFeed (line ++ lineBreak ++ rest) =
      (line ++ lineBreak) :: Text.piecesAfter lineFeed rest := by
  have hlf : lineFeed ∉ line ++ [carriageReturn] := by simp [h]
  have := Text.piecesAfter_line_append rest hlf
  simpa [lineBreak] using this

theorem sectionsFrom_held {mark : List UInt8} {lines : List (List UInt8)}
    (h : ∀ line ∈ lines, delimiter? mark line = none) (held rest : List (List UInt8)) :
    sectionsFrom mark held (lines ++ rest) = sectionsFrom mark (lines.reverse ++ held) rest := by
  induction lines generalizing held with
  | nil => rfl
  | cons line lines ih =>
    rw [List.cons_append, sectionsFrom, h line List.mem_cons_self]
    simp only
    rw [ih fun l hl => h l (List.mem_cons_of_mem _ hl)]
    simp

theorem sectionsFrom_section {boundary : String} (hb : OnLine boundary) {s : List UInt8}
    (hs : Calm boundary s) (raw : List UInt8) :
    sectionsFrom (markOf boundary) [] (Text.piecesAfter lineFeed (s ++ lineBreak ++ raw)) =
      sectionsFrom (markOf boundary) (Text.piecesAfter lineFeed (s ++ lineBreak)).reverse
        (Text.piecesAfter lineFeed raw) := by
  have hcut : Text.piecesAfter lineFeed (s ++ lineBreak ++ raw) =
      Text.piecesAfter lineFeed (s ++ lineBreak) ++ Text.piecesAfter lineFeed raw := by
    simpa [lineBreak] using Text.piecesAfter_append_stop lineFeed (s ++ [carriageReturn]) raw
  have hcalm : Calm boundary (s ++ lineBreak) := by
    simpa using hs.append_break hb (calm_nil boundary)
  rw [hcut, sectionsFrom_held fun line hline => delimiter?_eq_none (hcalm line hline),
    List.append_nil]

theorem sectionsFrom_write {boundary : String} (hb : OnLine boundary) {s : List UInt8}
    {rest : List (List UInt8)} (hs : Calm boundary s) (h : ∀ t ∈ rest, Calm boundary t) :
    sectionsFrom (markOf boundary) []
      (Text.piecesAfter lineFeed (s ++ lineBreak ++ write boundary rest)) = s :: rest := by
  have hmark := hb.not_mem_markOf.2
  induction rest generalizing s with
  | nil =>
    have hlf : lineFeed ∉ markOf boundary ++ [0x2d, 0x2d] := by
      simp only [List.mem_append, hmark, false_or]
      decide
    have hclose := piecesAfter_break [] hlf
    rw [List.append_nil] at hclose
    rw [sectionsFrom_section hb hs, write, hclose, sectionsFrom, delimiter?_closing]
    simp [Text.flatten_piecesAfter, withoutLineBreak_break]
  | cons t rest ih =>
    have hnext := ih (h t List.mem_cons_self) fun u hu => h u (List.mem_cons_of_mem _ hu)
    have hopen := piecesAfter_break (t ++ lineBreak ++ write boundary rest) hmark
    rw [← List.append_assoc] at hopen
    rw [sectionsFrom_section hb hs, write, hopen, sectionsFrom, delimiter?_opening]
    simp only [hnext, List.reverse_reverse, Text.flatten_piecesAfter, withoutLineBreak_break]

theorem split_write {boundary : String} (hb : OnLine boundary) {sections : List (List UInt8)}
    (hne : sections ≠ []) (h : ∀ s ∈ sections, Calm boundary s) :
    split (write boundary sections) boundary = .ok sections := by
  obtain ⟨s, rest, rfl⟩ := List.exists_cons_of_ne_nil hne
  have hopen := piecesAfter_break (s ++ lineBreak ++ write boundary rest)
    hb.not_mem_markOf.2
  have hsections := sectionsFrom_write hb (h s List.mem_cons_self)
    fun t ht => h t (List.mem_cons_of_mem _ ht)
  rw [← List.append_assoc] at hopen
  have hkind : (delimiter? (markOf boundary) (markOf boundary ++ lineBreak)).isNone = false := by
    rw [delimiter?_opening]
    rfl
  simp only [split, write, hopen, List.dropWhile_cons, hkind, Bool.false_eq_true, if_false,
    hsections]
  rw [delimiter?_opening]
  rfl

theorem calm_write {outer boundary : String} (ho : OnLine outer) (hb : OnLine boundary)
    (hopen : ¬ IsDelimiterLine outer (markOf boundary))
    (hclose : ¬ IsDelimiterLine outer (markOf boundary ++ [0x2d, 0x2d]))
    {sections : List (List UInt8)} (h : ∀ s ∈ sections, Calm outer s) :
    Calm outer (write boundary sections) := by
  have hmark := hb.not_mem_markOf.2
  induction sections with
  | nil =>
    have hlf : lineFeed ∉ markOf boundary ++ [0x2d, 0x2d] := by
      simp only [List.mem_append, hmark, false_or]
      decide
    simpa [write] using (calm_line hlf hclose).append_break ho (calm_nil outer)
  | cons s rest ih =>
    have hrest := ih fun t ht => h t (List.mem_cons_of_mem _ ht)
    have hs := (h s List.mem_cons_self).append_break ho hrest
    simpa [write] using (calm_line hmark hopen).append_break ho hs

end Mailroom.Mime.Multipart
