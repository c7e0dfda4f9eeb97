import Mathlib.Data.List.TakeWhile
import Mailroom.Proofs.Mime.Place

/-!
# Head and body meet at the first empty line

Lines end at LF, and one is empty if nothing or a CR stands before it. The headers of a part are
those of the lines before the first empty line, always. Its body is what stands behind that line,
except that the cut passes over a CRLF line behind a line that ends with LF alone, and then looks
for the next empty line (`Part.parse_at_emptyLine`). `Part.parse_passes_over` is a part that loses
its body in this way.
-/

namespace Mailroom.Mime

-- ---------------------------------------------------------------------------
-- The cut line by line
-- ---------------------------------------------------------------------------

def isEmptyLine (line : List UInt8) : Bool := line == [lineFeed] || line == lineBreak

def endsBare (line : List UInt8) : Bool := !lineBreak.isSuffixOf line

/-- The lines of the head and of the body. `bare` tells whether the line before ended with LF
alone; behind one that did, only LF is taken for an empty line. -/
def cutLines (bare : Bool) : List (List UInt8) → List (List UInt8) × List (List UInt8)
  | [] => ([], [])
  | line :: rest =>
    if line = [lineFeed] ∨ line = lineBreak ∧ bare = false then ([], rest)
    else (line :: (cutLines (endsBare line) rest).1, (cutLines (endsBare line) rest).2)

def flattened (parts : List (List UInt8) × List (List UInt8)) : List UInt8 × List UInt8 :=
  (parts.1.flatten, parts.2.flatten)

/-- The cut behind a line that ended with LF alone: a CRLF line at the start is no empty line. -/
def splitBehindBare (rest : List UInt8) : List UInt8 × List UInt8 :=
  if lineBreak <+: rest then underLine lineBreak (splitHead (rest.drop 2)) else splitHead rest

theorem cutAtEmpty_crlf_bare {line : List UInt8} (rest : List UInt8) (hl : lineFeed ∉ line)
    (hcr : ¬ [carriageReturn] <:+ line) :
    cutAtEmpty lineBreak (line ++ lineFeed :: rest) =
      (cutAtEmpty lineBreak rest).map (underLine (line ++ [lineFeed])) := by
  have h : ∀ t, t ≠ [] → t <:+ line ++ [lineFeed] → ¬ lineBreak ++ lineBreak <+: t ++ rest := by
    intro t hne ht
    obtain ⟨s, rfl, hs⟩ := (List.suffix_concat_iff.mp ht).resolve_left hne
    match s with
    | [] => simp [lineBreak, List.cons_prefix_cons]
    | [c] =>
      have hc : carriageReturn ≠ c := fun e => hcr (e ▸ hs)
      simp [lineBreak, List.cons_prefix_cons, hc]
    | c :: d :: s =>
      have hd : lineFeed ≠ d := fun e =>
        hl (hs.subset (List.mem_cons_of_mem c (e ▸ List.mem_cons_self)))
      simp [lineBreak, List.cons_prefix_cons, hd]
  have hline : line ++ lineFeed :: rest = line ++ [lineFeed] ++ rest := by simp
  unfold cutAtEmpty
  rw [hline, cut_line h]
  simp [underLine, Function.comp_def]

theorem lineBreak_prefix_iff {line : List UInt8} (rest : List UInt8) (hl : lineFeed ∉ line) :
    lineBreak <+: line ++ lineFeed :: rest ↔ line = [carriageReturn] := by
  match line with
  | [] => simp [lineBreak, List.cons_prefix_cons]
  | [c] => simp [lineBreak, List.cons_prefix_cons, eq_comm]
  | c :: d :: t =>
    simp only [List.mem_cons, not_or] at hl
    simp [lineBreak, List.cons_prefix_cons, hl.2.1]

theorem lineFeed_prefix_iff {line : List UInt8} (rest : List UInt8) (hl : lineFeed ∉ line) :
    [lineFeed] <+: line ++ lineFeed :: rest ↔ line = [] := by
  cases line with
  | nil => simp
  | cons c t =>
    simp only [List.mem_cons, not_or] at hl
    simp [List.cons_prefix_cons, hl.1]

theorem splitHead_bare {line : List UInt8} (rest : List UInt8) (hl : lineFeed ∉ line)
    (hne : line ≠ []) (hcr : ¬ [carriageReturn] <:+ line) :
    splitHead (line ++ lineFeed :: rest) =
      underLine (line ++ [lineFeed]) (splitBehindBare rest) := by
  have h1 := mt (lineFeed_prefix_iff rest hl).mp hne
  have h2 := mt (lineBreak_prefix_iff rest hl).mp fun e => hcr (e ▸ List.suffix_rfl)
  have hline : line ++ lineFeed :: rest = line ++ [lineFeed] ++ rest := by simp
  rw [splitHead_eq_earlier h2 h1, cutAtEmpty_crlf_bare rest hl hcr, cutAtEmpty_lf rest hl]
  unfold splitBehindBare
  by_cases r1 : [lineFeed] <+: rest
  · obtain ⟨body, rfl⟩ := r1
    have hlf : ¬ lineBreak <+: [lineFeed] ++ body := by simp [lineBreak, List.cons_prefix_cons]
    rw [if_pos (List.prefix_append _ _), if_neg hlf, List.singleton_append, splitHead_lf]
    unfold cutAtEmpty
    cases Text.cut (lineBreak ++ lineBreak) (lineFeed :: body) <;>
      simp [earlier, underLine, lineBreak]
  · rw [if_neg r1, earlier_map, hline, getD_map_underLine]
    by_cases r2 : lineBreak <+: rest
    · obtain ⟨body, rfl⟩ := r2
      have hnext := earlier_line body (List.not_mem_nil : lineFeed ∉ [])
      rw [List.nil_append] at hnext
      rw [if_pos (List.prefix_append _ _), hnext]
      rfl
    · rw [if_neg r2, splitHead_eq_earlier r2 r1]

theorem splitHead_of_not_mem {raw : List UInt8} (h : lineFeed ∉ raw) : splitHead raw = (raw, []) := by
  have hpart (sep : List UInt8) (hs : lineFeed ∈ sep) : ¬ sep <:+: raw := fun hi => h (hi.subset hs)
  have h1 : ¬ [lineFeed] <+: raw := fun hp => hpart _ (by simp) hp.isInfix
  have h2 : ¬ lineBreak <+: raw := fun hp => hpart _ (by simp [lineBreak]) hp.isInfix
  have hlf := Text.cut_eq_none_of_not_infix (hpart ([lineFeed] ++ [lineFeed]) (by simp))
  have hcrlf := Text.cut_eq_none_of_not_infix (hpart (lineBreak ++ lineBreak) (by simp [lineBreak]))
  rw [splitHead_eq_earlier h2 h1, cutAtEmpty, cutAtEmpty, hlf, hcrlf]
  rfl

theorem cutLines_empty {line : List UInt8} {bare : Bool} (rest : List (List UInt8))
    (h : line = [lineFeed] ∨ line = lineBreak ∧ bare = false) :
    cutLines bare (line :: rest) = ([], rest) := by
  rw [cutLines, if_pos h]

theorem flattened_cutLines_cons {line : List UInt8} {bare : Bool} (rest : List (List UInt8))
    (h : ¬ (line = [lineFeed] ∨ line = lineBreak ∧ bare = false)) :
    flattened (cutLines bare (line :: rest)) =
      underLine line (flattened (cutLines (endsBare line) rest)) := by
  rw [cutLines, if_neg h]
  rfl

theorem concat_lineFeed_eq_lineBreak {line : List UInt8} :
    line ++ [lineFeed] = lineBreak ↔ line = [carriageReturn] := by
  rw [show lineBreak = [carriageReturn] ++ [lineFeed] from rfl, List.append_left_inj]

theorem endsBare_concat {line : List UInt8} :
    endsBare (line ++ [lineFeed]) = true ↔ ¬ [carriageReturn] <:+ line := by
  have h : lineBreak <:+ line ++ [lineFeed] ↔ [carriageReturn] <:+ line := by
    rw [show lineBreak = [carriageReturn] ++ [lineFeed] from rfl, List.suffix_append_self_iff]
  rw [endsBare, Bool.not_eq_true', ← h, ← List.isSuffixOf_iff_suffix, Bool.not_eq_true]

theorem isEmptyLine_concat {line : List UInt8} :
    isEmptyLine (line ++ [lineFeed]) = true ↔ line = [] ∨ line = [carriageReturn] := by
  simp [isEmptyLine, concat_lineFeed_eq_lineBreak]

theorem splitHead_more {line : List UInt8} (rest : List UInt8) (hl : lineFeed ∉ line)
    (hne : line ≠ []) (hcr : line ≠ [carriageReturn]) : splitHead (line ++ lineFeed :: rest) =
      underLine (line ++ [lineFeed])
        (if endsBare (line ++ [lineFeed]) then splitBehindBare rest else splitHead rest) := by
  by_cases h : [carriageReturn] <:+ line
  · rw [if_neg fun hb => endsBare_concat.mp hb h]
    obtain ⟨front, rfl⟩ := h
    have hfront : front ≠ [] := fun e => hcr (by simp [e])
    have hbreak (xs : List UInt8) : front ++ [carriageReturn] ++ lineFeed :: xs =
        front ++ (lineBreak ++ xs) := by simp [lineBreak]
    rw [hbreak, hbreak, List.append_nil]
    exact splitHead_line rest (fun hm => hl (List.mem_append_left _ hm)) hfront
  · rw [if_pos (endsBare_concat.mpr h), splitHead_bare rest hl hne h]

theorem splitHead_eq_cutLines (raw : List UInt8) :
    splitHead raw = flattened (cutLines false (Text.piecesAfter lineFeed raw)) ∧
      splitBehindBare raw = flattened (cutLines true (Text.piecesAfter lineFeed raw)) := by
  induction raw using Text.induction_line lineFeed with
  | last line hline =>
    have hbreak : ¬ lineBreak <+: line := fun h => hline (h.subset (by simp [lineBreak]))
    have hcut (bare : Bool) :
        flattened (cutLines bare (Text.piecesAfter lineFeed line)) = (line, []) := by
      by_cases hne : line = []
      · subst hne
        rfl
      · rw [Text.piecesAfter_of_not_mem hline hne, flattened_cutLines_cons]
        · simp [cutLines, flattened, underLine]
        · rintro (rfl | ⟨rfl, -⟩)
          · exact hline List.mem_cons_self
          · exact hbreak (List.prefix_refl _)
    rw [splitBehindBare, if_neg hbreak, splitHead_of_not_mem hline, hcut, hcut]
    exact ⟨rfl, rfl⟩
  | more line rest hline ih =>
    obtain ⟨hsplit, hbare⟩ := ih
    rw [Text.piecesAfter_line_append rest hline]
    have hrest : flattened ([], Text.piecesAfter lineFeed rest) = ([], rest) := by
      rw [flattened, Text.flatten_piecesAfter, List.flatten_nil]
    by_cases hcr : line = [carriageReturn]
    · subst hcr
      refine ⟨?_, ?_⟩
      · rw [cutLines_empty _ (.inr ⟨concat_lineFeed_eq_lineBreak.mpr rfl, rfl⟩), hrest]
        exact splitHead_crlf rest
      · rw [splitBehindBare, if_pos ((lineBreak_prefix_iff rest hline).mpr rfl),
          flattened_cutLines_cons _ (by decide)]
        exact congrArg (underLine lineBreak) hsplit
    · rw [splitBehindBare, if_neg (mt (lineBreak_prefix_iff rest hline).mp hcr)]
      by_cases hne : line = []
      · subst hne
        rw [cutLines_empty _ (.inl (List.nil_append _)), cutLines_empty _ (.inl (List.nil_append _)),
          hrest]
        exact ⟨splitHead_lf rest, splitHead_lf rest⟩
      · have hcond (bare : Bool) : ¬ (line ++ [lineFeed] = [lineFeed] ∨
            line ++ [lineFeed] = lineBreak ∧ bare = false) := by
          simp [hne, concat_lineFeed_eq_lineBreak, hcr]
        have hnext : (if endsBare (line ++ [lineFeed]) then splitBehindBare rest
            else splitHead rest) = flattened
              (cutLines (endsBare (line ++ [lineFeed])) (Text.piecesAfter lineFeed rest)) := by
          cases endsBare (line ++ [lineFeed]) with
          | false => exact hsplit
          | true => exact hbare
        rw [splitHead_more rest hline hne hcr, flattened_cutLines_cons _ (hcond _),
          flattened_cutLines_cons _ (hcond _), hnext]
        exact ⟨rfl, rfl⟩

-- ---------------------------------------------------------------------------
-- The first empty line
-- ---------------------------------------------------------------------------

def headLines (raw : List UInt8) : List (List UInt8) :=
  (Text.piecesAfter lineFeed raw).takeWhile (!isEmptyLine ·)

def laterLines (raw : List UInt8) : List (List UInt8) :=
  (Text.piecesAfter lineFeed raw).dropWhile (!isEmptyLine ·)

def behindEmptyLine (raw : List UInt8) : List UInt8 := (laterLines raw).tail.flatten

/-- Whether the first empty line is CRLF and the line before it ends with LF alone. -/
def passesOver (raw : List UInt8) : Bool :=
  (laterLines raw).head? == some lineBreak && (headLines raw).getLast?.any endsBare

theorem takeWhile_cutLines (bare : Bool) (lines : List (List UInt8)) :
    (cutLines bare lines).1.takeWhile (!isEmptyLine ·) = lines.takeWhile (!isEmptyLine ·) := by
  induction lines generalizing bare with
  | nil => rfl
  | cons line rest ih =>
    by_cases h : line = [lineFeed] ∨ line = lineBreak ∧ bare = false
    · have hempty : isEmptyLine line = true := by
        rcases h with rfl | ⟨rfl, -⟩ <;> rfl
      rw [cutLines_empty rest h]
      simp [hempty]
    · rw [cutLines, if_neg h]
      simp [List.takeWhile_cons, ih]

theorem cutLines_prefix (bare : Bool) (lines : List (List UInt8)) :
    (cutLines bare lines).1 <+: lines := by
  induction lines generalizing bare with
  | nil => exact List.prefix_refl _
  | cons line rest ih =>
    rw [cutLines]
    split
    · exact List.nil_prefix
    · exact List.cons_prefix_cons.mpr ⟨rfl, ih _⟩

theorem cutLines_suffix (bare : Bool) (line : List UInt8) (rest : List (List UInt8)) :
    (cutLines bare (line :: rest)).2 <:+ rest := by
  induction rest generalizing bare line with
  | nil =>
    rw [cutLines]
    split <;> exact List.suffix_rfl
  | cons next rest ih =>
    rw [cutLines]
    split
    · exact List.suffix_rfl
    · exact (ih _ next).trans (List.suffix_cons next rest)

theorem cutLines_behind (bare : Bool) (lines : List (List UInt8)) :
    (cutLines bare lines).2 =
      let later := lines.dropWhile (!isEmptyLine ·)
      if later.head? = some lineBreak ∧
          ((lines.takeWhile (!isEmptyLine ·)).getLast?.map endsBare).getD bare = true
      then (cutLines false later.tail).2 else later.tail := by
  induction lines generalizing bare with
  | nil => rfl
  | cons line rest ih =>
    by_cases hempty : isEmptyLine line = true
    · have hline : line = [lineFeed] ∨ line = lineBreak := by simpa [isEmptyLine] using hempty
      simp only [List.dropWhile_cons, List.takeWhile_cons, hempty, Bool.not_true, Bool.false_eq_true,
        if_false, List.head?_cons, List.tail_cons, List.getLast?_nil, Option.map_none,
        Option.getD_none, Option.some.injEq]
      rcases hline with rfl | rfl
      · rw [cutLines_empty rest (.inl rfl), if_neg (by simp [lineBreak])]
      · cases bare with
        | false => rw [cutLines_empty rest (.inr ⟨rfl, rfl⟩), if_neg (by simp)]
        | true =>
          have hends : endsBare lineBreak = false := rfl
          rw [cutLines, if_neg (by decide), if_pos ⟨rfl, rfl⟩, hends]
    · have hline : ¬ (line = [lineFeed] ∨ line = lineBreak ∧ bare = false) := by
        rintro (rfl | ⟨rfl, -⟩) <;> exact hempty rfl
      rw [cutLines, if_neg hline]
      simp only [List.dropWhile_cons, List.takeWhile_cons, hempty, Bool.not_false, if_true, ih,
        List.getLast?_cons, Option.map_some, Option.getD_some]
      cases (rest.takeWhile (!isEmptyLine ·)).getLast? <;> rfl

-- ---------------------------------------------------------------------------
-- Lines of the text
-- ---------------------------------------------------------------------------

def textLine (line : List UInt8) : List Char := Text.lineContent (Text.Utf8.decodeLenient line)

theorem decodeLenient_append_lineFeed (xs rest : List UInt8) :
    Text.Utf8.decodeLenient (xs ++ lineFeed :: rest) =
      Text.Utf8.decodeLenient xs ++ '\n' :: Text.Utf8.decodeLenient rest :=
  Text.Utf8.decodeLenient_append_ascii xs (by decide) rest

theorem lineFeed_not_mem_decodeLenient {xs : List UInt8} (h : lineFeed ∉ xs) :
    '\n' ∉ Text.Utf8.decodeLenient xs := fun hm =>
  h (Text.Utf8.mem_of_mem_decodeLenient (by decide) (by decide) hm)

theorem lines_decodeLenient (raw : List UInt8) :
    Text.lines (Text.Utf8.decodeLenient raw) = (Text.piecesAfter lineFeed raw).map textLine := by
  induction raw using Text.induction_line lineFeed with
  | last line hline =>
    by_cases hne : line = []
    · subst hne
      rfl
    · have htext : Text.Utf8.decodeLenient line ≠ [] := mt Text.Utf8.decodeLenient_eq_nil_iff.mp hne
      rw [Text.piecesAfter_of_not_mem hline hne, Text.lines,
        Text.piecesAfter_of_not_mem (lineFeed_not_mem_decodeLenient hline) htext]
      rfl
  | more line rest hline ih =>
    rw [Text.lines] at ih ⊢
    rw [decodeLenient_append_lineFeed, Text.piecesAfter_line_append rest hline,
      Text.piecesAfter_line_append _ (lineFeed_not_mem_decodeLenient hline), List.map_cons, ih,
      List.map_cons, textLine, decodeLenient_append_lineFeed]
    rfl

theorem isEmpty_textLine {raw line : List UInt8} (h : line ∈ Text.piecesAfter lineFeed raw) :
    (textLine line).isEmpty = isEmptyLine line := by
  rw [Bool.eq_iff_iff, List.isEmpty_iff, textLine]
  rcases Text.of_mem_piecesAfter h with ⟨content, rfl, -⟩ | ⟨hne, hlf⟩
  · have hreturn : Text.Utf8.decodeLenient content = ['\r'] ↔ content = [carriageReturn] :=
      Text.Utf8.decodeLenient_eq_singleton_iff (by decide) (by decide)
    rw [decodeLenient_append_lineFeed, isEmptyLine_concat]
    exact Text.lineContent_concat_eq_nil_iff.trans
      (or_congr Text.Utf8.decodeLenient_eq_nil_iff hreturn)
  · rw [Text.lineContent_of_not_mem (lineFeed_not_mem_decodeLenient hlf),
      Text.Utf8.decodeLenient_eq_nil_iff]
    refine iff_of_false hne fun hempty => hlf ?_
    rcases (by simpa [isEmptyLine] using hempty : line = [lineFeed] ∨ line = lineBreak) with rfl | rfl
    · exact List.mem_cons_self
    · simp [lineBreak]

theorem takeWhile_textLine {raw : List UInt8} {lines : List (List UInt8)}
    (h : lines ⊆ Text.piecesAfter lineFeed raw) :
    (lines.map textLine).takeWhile (!·.isEmpty) =
      (lines.takeWhile (!isEmptyLine ·)).map textLine := by
  induction lines with
  | nil => rfl
  | cons line lines ih =>
    have hline := isEmpty_textLine (h List.mem_cons_self)
    rw [List.map_cons, List.takeWhile_cons, List.takeWhile_cons, hline,
      ih fun l hl => h (List.mem_cons_of_mem line hl)]
    split <;> rfl

theorem parse_headers (raw : List UInt8) : Headers.parse (Text.ofBytesLenient raw) =
    ⟨(((headLines raw).map textLine).foldl Headers.absorb []).reverse⟩ := by
  rw [Headers.parse, Text.ofBytesLenient, String.toList_ofList, lines_decodeLenient,
    Headers.ofLines, takeWhile_textLine (List.Subset.refl _), headLines]

theorem headLines_flatten (raw : List UInt8) : headLines (headLines raw).flatten = headLines raw := by
  have h : headLines raw <+: Text.piecesAfter lineFeed raw := List.takeWhile_prefix _
  rw [headLines, Text.piecesAfter_flatten_of_infix h.isInfix, headLines, List.takeWhile_idem]

theorem headLines_splitHead (raw : List UInt8) : headLines (splitHead raw).1 = headLines raw := by
  have h := cutLines_prefix false (Text.piecesAfter lineFeed raw)
  rw [(splitHead_eq_cutLines raw).1, flattened, headLines,
    Text.piecesAfter_flatten_of_infix h.isInfix, takeWhile_cutLines]
  rfl

-- ---------------------------------------------------------------------------
-- Parts
-- ---------------------------------------------------------------------------

theorem Part.parse_headers (raw : List UInt8) :
    (Part.parse raw).headers = Headers.parse (Text.ofBytesLenient (headLines raw).flatten) := by
  show Headers.parse (Text.ofBytesLenient (splitHead raw).1) = _
  rw [Mime.parse_headers, Mime.parse_headers, headLines_splitHead, headLines_flatten]

theorem Part.body_eq (raw : List UInt8) : (Part.parse raw).body =
    (cutLines false (Text.piecesAfter lineFeed raw)).2.flatten :=
  congrArg Prod.snd (splitHead_eq_cutLines raw).1

theorem Part.parse_body (raw : List UInt8) : (Part.parse raw).body =
    if passesOver raw then (Part.parse (behindEmptyLine raw)).body else behindEmptyLine raw := by
  have hlater : (laterLines raw).tail <:+: Text.piecesAfter lineFeed raw :=
    ((List.tail_suffix _).trans (List.dropWhile_suffix _)).isInfix
  rw [body_eq, cutLines_behind, body_eq (behindEmptyLine raw), behindEmptyLine,
    Text.piecesAfter_flatten_of_infix hlater]
  have hpasses : passesOver raw = true ↔ (laterLines raw).head? = some lineBreak ∧
      ((headLines raw).getLast?.map endsBare).getD false = true := by
    rw [passesOver, Bool.and_eq_true, beq_iff_eq]
    cases (headLines raw).getLast? <;> simp
  by_cases h : passesOver raw = true
  · exact (congrArg List.flatten (if_pos (hpasses.mp h))).trans (if_pos h).symm
  · exact (congrArg List.flatten (if_neg (mt hpasses.mpr h))).trans (if_neg h).symm

theorem Part.body_eq_self_iff {raw : List UInt8} : (Part.parse raw).body = raw ↔ raw = [] := by
  refine ⟨fun h => ?_, fun h => h ▸ rfl⟩
  cases hlines : Text.piecesAfter lineFeed raw with
  | nil => rw [← Text.flatten_piecesAfter lineFeed raw, hlines, List.flatten_nil]
  | cons line rest =>
    exfalso
    have hsuffix := cutLines_suffix false line rest
    rw [body_eq, hlines] at h
    generalize (cutLines false (line :: rest)).2 = later at h hsuffix
    have hpart : later <:+: Text.piecesAfter lineFeed raw :=
      hlines ▸ (hsuffix.trans (List.suffix_cons line rest)).isInfix
    have hpieces := Text.piecesAfter_flatten_of_infix hpart
    rw [h, hlines] at hpieces
    have hle := hsuffix.length_le
    rw [← hpieces, List.length_cons] at hle
    omega

/-- The headers of a part are those of the lines before its first empty line. Its body is what
stands behind that line, or what it is the body of if the cut passes over the line, which is as
good only if nothing stands there. A message is cut as its part. -/
theorem Part.parse_at_emptyLine (raw : List UInt8) :
    (Part.parse raw).headers = Headers.parse (Text.ofBytesLenient (headLines raw).flatten) ∧
      (Part.parse raw).body = (if passesOver raw then (Part.parse (behindEmptyLine raw)).body
        else behindEmptyLine raw) ∧
      ((Part.parse raw).body = behindEmptyLine raw ↔
        passesOver raw = false ∨ behindEmptyLine raw = []) ∧
      ∀ m, Message.parse raw = .ok m → m.toPart = Part.parse raw := by
  refine ⟨parse_headers raw, parse_body raw, ?_, fun m h => (Message.within_parse h).1⟩
  rw [parse_body]
  cases passesOver raw with
  | false => simp
  | true => simpa using body_eq_self_iff

/-- A CRLF behind a line that ends with LF alone is passed over, and what stands behind it lost. -/
theorem Part.parse_passes_over :
    let raw := Text.bytes "A: b\n\r\nhi"
    behindEmptyLine raw = Text.bytes "hi" ∧ (Part.parse raw).body = [] ∧
      Message.parse raw = .ok ⟨Part.parse raw, []⟩ := by
  exact ⟨by decide +kernel, by decide +kernel, Answer.toOption_eq_some_iff.mp (by decide +kernel)⟩

end Mailroom.Mime
