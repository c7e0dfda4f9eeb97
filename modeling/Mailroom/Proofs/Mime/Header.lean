import Mailroom.Mime.Part
import Mailroom.Proofs.Text.Blank
import Mailroom.Proofs.Text.Cut
import Mailroom.Proofs.Text.Utf8

/-!
# Header blocks are read back

A line in front of a message is a line in front of its head, and the rest is cut as it was.
So fields that are written one to a line, with an empty line behind them, are read as those
fields, and the bytes after the empty line are the body.
-/

namespace Mailroom.Mime

-- ---------------------------------------------------------------------------
-- The cut at the first empty line
-- ---------------------------------------------------------------------------

def lineBreak : List UInt8 := [carriageReturn, lineFeed]

@[simp] theorem carriageReturn_ne_lineFeed : carriageReturn ≠ lineFeed := by decide

@[simp] theorem lineFeed_ne_carriageReturn : lineFeed ≠ carriageReturn := by decide

def underLine (line : List UInt8) (parts : List UInt8 × List UInt8) : List UInt8 × List UInt8 :=
  (line ++ parts.1, parts.2)

theorem cut_line {sep line rest : List UInt8}
    (h : ∀ t, t ≠ [] → t <:+ line → ¬ sep <+: t ++ rest) :
    Text.cut sep (line ++ rest) = (Text.cut sep rest).map (underLine line) := by
  induction line with
  | nil => simp [show underLine [] = id from rfl]
  | cons c line ih =>
    have hstart := h (c :: line) (by simp) List.suffix_rfl
    have hrest := ih fun t hne ht => h t hne (ht.trans (List.suffix_cons c line))
    rw [List.cons_append] at hstart ⊢
    rw [Text.cut, if_neg (by rwa [List.isPrefixOf_iff_prefix]), hrest, Option.map_map]
    rfl

def cutAtEmpty (stop raw : List UInt8) : Option (List UInt8 × List UInt8) :=
  (Text.cut (stop ++ stop) raw).map fun p => (p.1 ++ stop, p.2)

theorem cutAtEmpty_lf {line : List UInt8} (rest : List UInt8) (hl : lineFeed ∉ line) :
    cutAtEmpty [lineFeed] (line ++ lineFeed :: rest) =
      if [lineFeed] <+: rest then some (line ++ [lineFeed], rest.drop 1)
      else (cutAtEmpty [lineFeed] rest).map (underLine (line ++ [lineFeed])) := by
  have h : ∀ t, t ≠ [] → t <:+ line →
      ¬ [lineFeed] ++ [lineFeed] <+: t ++ lineFeed :: rest := by
    intro t hne ht
    obtain ⟨c, t, rfl⟩ := List.exists_cons_of_ne_nil hne
    have hc : lineFeed ≠ c := fun e => hl (ht.subset (e ▸ List.mem_cons_self))
    simp [List.cons_prefix_cons, hc]
  unfold cutAtEmpty
  rw [cut_line h]
  split
  · next hr => simp [Text.cut, hr, underLine]
  · next hr => simp [Text.cut, hr, underLine, Function.comp_def]

theorem cutAtEmpty_crlf {line : List UInt8} (rest : List UInt8) (hl : lineFeed ∉ line) :
    cutAtEmpty lineBreak (line ++ (lineBreak ++ rest)) =
      if lineBreak <+: rest then some (line ++ lineBreak, rest.drop 2)
      else (cutAtEmpty lineBreak rest).map (underLine (line ++ lineBreak)) := by
  have h : ∀ t, t ≠ [] → t <:+ line →
      ¬ lineBreak ++ lineBreak <+: t ++ (lineBreak ++ rest) := by
    intro t hne ht
    obtain ⟨c, t, rfl⟩ := List.exists_cons_of_ne_nil hne
    cases t with
    | nil => simp [lineBreak, List.cons_prefix_cons]
    | cons d t =>
      have hd : lineFeed ≠ d := fun e =>
        hl (ht.subset (List.mem_cons_of_mem c (e ▸ List.mem_cons_self)))
      simp [lineBreak, List.cons_prefix_cons, hd]
  unfold cutAtEmpty
  rw [cut_line h]
  unfold lineBreak
  split
  · next hr => simp [Text.cut, hr, underLine]
  · next hr => simp [Text.cut, List.cons_prefix_cons, hr, underLine, Function.comp_def]

def earlier : Option (List UInt8 × List UInt8) → Option (List UInt8 × List UInt8) →
    Option (List UInt8 × List UInt8)
  | some a, some b => if a.1.length ≤ b.1.length then some a else some b
  | some a, none => some a
  | none, b => b

theorem earlier_map (line : List UInt8) (a b : Option (List UInt8 × List UInt8)) :
    earlier (a.map (underLine line)) (b.map (underLine line)) =
      (earlier a b).map (underLine line) := by
  cases a <;> cases b <;> simp [earlier, underLine]
  split <;> rfl

theorem getD_map_underLine (line rest : List UInt8) (parts : Option (List UInt8 × List UInt8)) :
    (parts.map (underLine line)).getD (line ++ rest, []) = underLine line (parts.getD (rest, [])) := by
  cases parts <;> rfl

theorem splitHead_crlf (body : List UInt8) : splitHead (lineBreak ++ body) = ([], body) := by
  simp [splitHead, lineBreak, Text.dropPrefix?]

theorem splitHead_lf (body : List UInt8) : splitHead (lineFeed :: body) = ([], body) := by
  simp [splitHead, Text.dropPrefix?]

theorem splitHead_eq_earlier {raw : List UInt8} (h2 : ¬ lineBreak <+: raw)
    (h1 : ¬ [lineFeed] <+: raw) : splitHead raw =
      (earlier (cutAtEmpty lineBreak raw) (cutAtEmpty [lineFeed] raw)).getD (raw, []) := by
  have d2 : Text.dropPrefix? [carriageReturn, lineFeed] raw = none := by
    simpa [Text.dropPrefix?, lineBreak] using h2
  have d1 : Text.dropPrefix? [lineFeed] raw = none := by
    simpa [Text.dropPrefix?] using h1
  simp only [splitHead, d2, d1, cutAtEmpty, lineBreak, List.cons_append, List.nil_append]
  generalize Text.cut [carriageReturn, lineFeed, carriageReturn, lineFeed] raw = a
  generalize Text.cut [lineFeed, lineFeed] raw = b
  cases a <;> cases b
  · rfl
  · rfl
  · rfl
  · simp only [earlier, Option.map_some, List.length_append, List.length_cons, List.length_nil]
    split <;> rfl

theorem earlier_line {line : List UInt8} (rest : List UInt8) (hl : lineFeed ∉ line) :
    (earlier (cutAtEmpty lineBreak (line ++ (lineBreak ++ rest)))
        (cutAtEmpty [lineFeed] (line ++ (lineBreak ++ rest)))).getD
        (line ++ (lineBreak ++ rest), []) =
      underLine (line ++ lineBreak) (splitHead rest) := by
  have hcr : lineFeed ∉ line ++ [carriageReturn] := by simp [hl]
  have hlf := cutAtEmpty_lf rest hcr
  have hbreak (xs : List UInt8) : line ++ [carriageReturn] ++ lineFeed :: xs =
      line ++ (lineBreak ++ xs) := by simp [lineBreak]
  rw [hbreak, hbreak, List.append_nil] at hlf
  rw [cutAtEmpty_crlf rest hl, hlf]
  by_cases r2 : lineBreak <+: rest
  · obtain ⟨body, rfl⟩ := r2
    have hlf : ¬ [lineFeed] <+: lineBreak ++ body := by simp [lineBreak, List.cons_prefix_cons]
    rw [if_pos (List.prefix_append _ _), if_neg hlf, splitHead_crlf]
    cases cutAtEmpty [lineFeed] (lineBreak ++ body) <;> simp [earlier, underLine, lineBreak]
  · by_cases r1 : [lineFeed] <+: rest
    · obtain ⟨body, rfl⟩ := r1
      rw [if_neg r2, if_pos (List.prefix_append _ _)]
      -- an empty line of the other kind comes later, behind a line break of its own
      unfold cutAtEmpty
      cases Text.cut (lineBreak ++ lineBreak) ([lineFeed] ++ body) <;>
        simp [earlier, underLine, splitHead_lf, lineBreak]
    · rw [if_neg r2, if_neg r1, earlier_map, splitHead_eq_earlier r2 r1, ← List.append_assoc,
        getD_map_underLine]

theorem splitHead_line {line : List UInt8} (rest : List UInt8) (hl : lineFeed ∉ line)
    (hne : line ≠ []) : splitHead (line ++ (lineBreak ++ rest)) =
      underLine (line ++ lineBreak) (splitHead rest) := by
  have h2 : ¬ lineBreak <+: line ++ (lineBreak ++ rest) := by
    obtain ⟨c, t, rfl⟩ := List.exists_cons_of_ne_nil hne
    cases t with
    | nil => simp [lineBreak, List.cons_prefix_cons]
    | cons d t =>
      simp only [List.mem_cons, not_or] at hl
      simp [lineBreak, List.cons_prefix_cons, hl.2.1]
  have h1 : ¬ [lineFeed] <+: line ++ (lineBreak ++ rest) := by
    obtain ⟨c, t, rfl⟩ := List.exists_cons_of_ne_nil hne
    simp only [List.mem_cons, not_or] at hl
    simp [List.cons_prefix_cons, hl.1]
  rw [splitHead_eq_earlier h2 h1, earlier_line rest hl]

-- ---------------------------------------------------------------------------
-- Fields on lines of their own
-- ---------------------------------------------------------------------------

/-- A field that fits on one line and has no white space to lose. -/
structure Field.Plain (f : Field) : Prop where
  named : f.name.toList ≠ []
  nameTrimmed : Text.Trimmed f.name.toList
  nameOnLine : ':' ∉ f.name.toList ∧ '\r' ∉ f.name.toList ∧ '\n' ∉ f.name.toList
  valueTrimmed : Text.Trimmed f.value.toList
  valueOnLine : '\r' ∉ f.value.toList ∧ '\n' ∉ f.value.toList

instance (f : Field) : Decidable f.Plain :=
  decidable_of_iff
    (f.name.toList ≠ [] ∧ Text.Trimmed f.name.toList ∧
      (':' ∉ f.name.toList ∧ '\r' ∉ f.name.toList ∧ '\n' ∉ f.name.toList) ∧
      Text.Trimmed f.value.toList ∧ '\r' ∉ f.value.toList ∧ '\n' ∉ f.value.toList)
    ⟨fun ⟨a, b, c, d, e⟩ => ⟨a, b, c, d, e⟩, fun ⟨a, b, c, d, e⟩ => ⟨a, b, c, d, e⟩⟩

def Field.line (f : Field) : List Char := f.name.toList ++ ':' :: ' ' :: f.value.toList

def Field.write (f : Field) : List UInt8 := Text.Utf8.encode f.line ++ lineBreak

theorem Field.Plain.not_mem_line {f : Field} (hf : f.Plain) : '\n' ∉ f.line := by
  simp [Field.line, hf.nameOnLine.2.2, hf.valueOnLine.2]

theorem Headers.absorb_opening {name : List Char} (hne : name ≠ []) (ht : Text.Trimmed name)
    (hcolon : ':' ∉ name) (value : List Char) (latest : List Field) :
    Headers.absorb latest (name ++ ':' :: value) =
      ⟨String.ofList name, String.ofList (Text.trim value)⟩ :: latest := by
  have hcut : Text.cut [':'] (name ++ ':' :: value) = some (name, value) :=
    Text.cut_singleton_append value hcolon
  have hname : Text.trim name = name := Text.trim_of_trimmed ht
  obtain ⟨c, rest, rfl⟩ := List.exists_cons_of_ne_nil hne
  have hc : Text.isBlank c = false := ht.1 c rfl
  have hspace : c ≠ ' ' := by
    rintro rfl
    exact absurd hc (by decide)
  have htab : c ≠ '\t' := by
    rintro rfl
    exact absurd hc (by decide)
  unfold Headers.absorb
  rw [hcut]
  simp [hspace, htab, hname]

theorem Field.Plain.absorb {f : Field} (hf : f.Plain) (latest : List Field) :
    Headers.absorb latest f.line = f :: latest := by
  have hvalue : Text.trim (' ' :: f.value.toList) = f.value.toList := by
    simpa using Text.trim_append [' '] [] (List.forall_mem_singleton.mpr rfl) (by simp) hf.valueTrimmed
  rw [Field.line, Headers.absorb_opening hf.named hf.nameTrimmed hf.nameOnLine.1, hvalue,
    String.ofList_toList, String.ofList_toList]

theorem lines_fields {fields : List Field} (h : ∀ f ∈ fields, f.Plain) :
    Text.lines (fields.flatMap fun f => f.line ++ ['\r', '\n']) = fields.map Field.line := by
  induction fields with
  | nil => rfl
  | cons f fields ih =>
    have hf := h f List.mem_cons_self
    simp only [List.flatMap_cons, List.append_assoc, List.cons_append, List.nil_append,
      List.map_cons]
    rw [Text.lines_crlf _ hf.not_mem_line, ih fun g hg => h g (List.mem_cons_of_mem _ hg)]

theorem foldl_absorb {fields : List Field} (h : ∀ f ∈ fields, f.Plain) (latest : List Field) :
    (fields.map Field.line).foldl Headers.absorb latest = fields.reverse ++ latest := by
  induction fields generalizing latest with
  | nil => rfl
  | cons f fields ih =>
    have hf := h f List.mem_cons_self
    rw [List.map_cons, List.foldl_cons, hf.absorb,
      ih fun g hg => h g (List.mem_cons_of_mem _ hg)]
    simp

theorem encode_fields (fields : List Field) :
    Text.Utf8.encode (fields.flatMap fun f => f.line ++ ['\r', '\n']) =
      fields.flatMap Field.write := by
  induction fields with
  | nil => rfl
  | cons f fields ih =>
    rw [List.flatMap_cons, List.flatMap_cons, Text.Utf8.encode_append, Text.Utf8.encode_append, ih]
    rfl

theorem Headers.parse_fields {fields : List Field} (h : ∀ f ∈ fields, f.Plain) :
    Headers.parse (Text.ofBytesLenient (fields.flatMap Field.write)) = ⟨fields⟩ := by
  have hfull : ∀ line ∈ fields.map Field.line, (!line.isEmpty) = true := by
    intro line hline
    obtain ⟨f, -, rfl⟩ := List.mem_map.mp hline
    simp [Field.line]
  have htake : (fields.map Field.line ++ []).takeWhile (!·.isEmpty) = fields.map Field.line ++ [] :=
    List.takeWhile_append_of_pos hfull
  rw [List.append_nil] at htake
  unfold Headers.parse Text.ofBytesLenient
  rw [← encode_fields, Text.Utf8.decodeLenient_encode, String.toList_ofList, lines_fields h,
    Headers.ofLines, htake, foldl_absorb h]
  simp

theorem splitHead_fields {fields : List Field} (h : ∀ f ∈ fields, f.Plain) (body : List UInt8) :
    splitHead (fields.flatMap Field.write ++ (lineBreak ++ body)) =
      (fields.flatMap Field.write, body) := by
  induction fields with
  | nil => exact splitHead_crlf body
  | cons f fields ih =>
    have hf := h f List.mem_cons_self
    have hne : Text.Utf8.encode f.line ≠ [] := Text.Utf8.encode_ne_nil (by simp [Field.line])
    have hlf : lineFeed ∉ Text.Utf8.encode f.line := fun hm =>
      hf.not_mem_line (Text.Utf8.ofNat_mem_of_mem_encode hm (by decide))
    rw [List.flatMap_cons, Field.write, List.append_assoc, List.append_assoc,
      splitHead_line _ hlf hne, ih fun g hg => h g (List.mem_cons_of_mem _ hg)]
    simp [underLine]

def Part.write (p : Part) : List UInt8 :=
  p.headers.fields.flatMap Field.write ++ (lineBreak ++ p.body)

theorem Part.parse_write {p : Part} (h : ∀ f ∈ p.headers.fields, f.Plain) :
    Part.parse p.write = p := by
  simp only [Part.parse, Part.write, splitHead_fields h, Headers.parse_fields h]

end Mailroom.Mime
