import Mailroom.Proofs.Mime.Multipart
import Mailroom.Proofs.Text.Slice

/-!
# Sections lie between delimiter lines

What a multipart body is cut into can be said by its delimiter lines alone, by their places:
`split_between` takes all of them in their order. A section is what lies between an opening
delimiter line and the next delimiter line, without the line break at its end, or what lies behind
the last line if that is an opening one. Without a delimiter line there is nothing to cut.
-/

namespace Mailroom.Mime.Multipart

open Text (slice?)

-- ---------------------------------------------------------------------------
-- Delimiter lines
-- ---------------------------------------------------------------------------

/-- Bytes, and what they are without one line break at their end, CRLF or LF. -/
inductive Unbroken : List UInt8 → List UInt8 → Prop
  | crlf (content : List UInt8) : Unbroken (content ++ lineBreak) content
  | lf {content : List UInt8} (h : ¬ [carriageReturn] <:+ content) :
      Unbroken (content ++ [lineFeed]) content
  | bare {content : List UInt8} (h : ¬ [lineFeed] <:+ content) : Unbroken content content

def Delimiter.Follows : Delimiter → List UInt8 → Prop
  | .closing, rest => [0x2d, 0x2d] <+: rest
  | .opening, rest => ∀ b ∈ rest, Text.isBlankByte b = true

/-- A line that is, without its line break, two hyphens, the boundary and what may follow it. -/
def Delimits (boundary : String) (line : List UInt8) (kind : Delimiter) : Prop :=
  ∃ rest, Unbroken line (markOf boundary ++ rest) ∧ kind.Follows rest

theorem dropSuffix?_lineFeed (content : List UInt8) :
    Text.dropSuffix? [lineFeed] (content ++ [lineFeed]) = some content :=
  Text.dropSuffix?_eq_some_iff.mpr rfl

theorem suffix_crlf_iff {content : List UInt8} :
    [carriageReturn, lineFeed] <:+ content ++ [lineFeed] ↔ [carriageReturn] <:+ content := by
  constructor
  · rintro ⟨front, h⟩
    exact ⟨front, List.append_cancel_right (by simpa using h)⟩
  · rintro ⟨front, rfl⟩
    exact ⟨front, by simp⟩

theorem unbroken_iff {xs content : List UInt8} :
    Unbroken xs content ↔ withoutLineBreak xs = content := by
  constructor
  · intro h
    cases h with
    | crlf => exact withoutLineBreak_break content
    | lf h =>
      have hcrlf := Text.dropSuffix?_eq_none_iff.mpr fun hs => h (suffix_crlf_iff.mp hs)
      simp only [withoutLineBreak, hcrlf, dropSuffix?_lineFeed, Option.getD_some]
    | bare h =>
      have hcrlf : Text.dropSuffix? [carriageReturn, lineFeed] xs = none :=
        Text.dropSuffix?_eq_none_iff.mpr fun hs => h ((List.suffix_cons _ _).trans hs)
      simp only [withoutLineBreak, hcrlf, Text.dropSuffix?_eq_none_iff.mpr h, Option.getD_none]
  · rintro rfl
    unfold withoutLineBreak
    cases hcrlf : Text.dropSuffix? [carriageReturn, lineFeed] xs with
    | some shorter => exact Text.dropSuffix?_eq_some_iff.mp hcrlf ▸ .crlf shorter
    | none =>
      cases hlf : Text.dropSuffix? [lineFeed] xs with
      | some shorter =>
        obtain rfl := Text.dropSuffix?_eq_some_iff.mp hlf
        exact .lf fun h => Text.dropSuffix?_eq_none_iff.mp hcrlf (suffix_crlf_iff.mpr h)
      | none => exact .bare (Text.dropSuffix?_eq_none_iff.mp hlf)

theorem withoutLineBreak_cases (line : List UInt8) :
    withoutLineBreak line = lineContent line ∨
      withoutLineBreak line = lineContent line ++ [carriageReturn] := by
  cases hlf : Text.dropSuffix? [lineFeed] line with
  | some content =>
    left
    obtain rfl := Text.dropSuffix?_eq_some_iff.mp hlf
    rw [lineContent, hlf, Option.getD_some]
    cases hcr : Text.dropSuffix? [carriageReturn] content with
    | some shorter =>
      obtain rfl := Text.dropSuffix?_eq_some_iff.mp hcr
      simpa [lineBreak] using withoutLineBreak_break shorter
    | none => exact unbroken_iff.mp (.lf (Text.dropSuffix?_eq_none_iff.mp hcr))
  | none =>
    rw [unbroken_iff.mp (.bare (Text.dropSuffix?_eq_none_iff.mp hlf)), lineContent, hlf,
      Option.getD_none]
    cases hcr : Text.dropSuffix? [carriageReturn] line with
    | some shorter => exact .inr (Text.dropSuffix?_eq_some_iff.mp hcr)
    | none => exact .inl rfl

theorem delimiter?_eq_some_iff_content {mark line : List UInt8} {kind : Delimiter} :
    delimiter? mark line = some kind ↔
      ∃ rest, lineContent line = mark ++ rest ∧ kind.Follows rest := by
  have hsame {rest : List UInt8} (h : lineContent line = mark ++ rest) :
      (∃ rest, lineContent line = mark ++ rest ∧ kind.Follows rest) ↔ kind.Follows rest := by
    refine ⟨fun ⟨other, hother, hfollows⟩ => ?_, fun hfollows => ⟨rest, h, hfollows⟩⟩
    rwa [List.append_cancel_left (h.symm.trans hother)]
  unfold delimiter?
  cases hd : Text.dropPrefix? mark (lineContent line) with
  | none =>
    simp only [reduceCtorEq, false_iff]
    rintro ⟨rest, hrest, -⟩
    rw [Text.dropPrefix?_eq_some_iff.mpr hrest] at hd
    cases hd
  | some rest =>
    rw [hsame (Text.dropPrefix?_eq_some_iff.mp hd)]
    simp only [List.isPrefixOf_iff_prefix, List.all_eq_true]
    have hhyphen (h : [0x2d, 0x2d] <+: rest) : ¬ ∀ b ∈ rest, Text.isBlankByte b = true := fun hb =>
      absurd (hb 0x2d (h.subset List.mem_cons_self)) (by decide)
    split
    · next hclosing =>
      cases kind with
      | closing => exact iff_of_true rfl hclosing
      | opening => exact iff_of_false nofun (hhyphen hclosing)
    · next hclosing =>
      split
      · next hopening =>
        cases kind with
        | closing => exact iff_of_false nofun hclosing
        | opening => exact iff_of_true rfl hopening
      · next hopening =>
        cases kind with
        | closing => exact iff_of_false nofun hclosing
        | opening => exact iff_of_false nofun hopening

theorem follows_concat {mark content : List UInt8} (hmark : carriageReturn ∉ mark)
    (kind : Delimiter) :
    (∃ rest, content ++ [carriageReturn] = mark ++ rest ∧ kind.Follows rest) ↔
      ∃ rest, content = mark ++ rest ∧ kind.Follows rest := by
  have hfollows (rest : List UInt8) :
      kind.Follows (rest ++ [carriageReturn]) ↔ kind.Follows rest := by
    cases kind with
    | closing =>
      have hlast : [0x2d, 0x2d] ≠ rest ++ [carriageReturn] := fun h =>
        absurd (h ▸ List.mem_append_right rest List.mem_cons_self : carriageReturn ∈ [0x2d, 0x2d])
          (by decide)
      simp [Delimiter.Follows, List.prefix_concat_iff, hlast]
    | opening =>
      have hblank : Text.isBlankByte carriageReturn = true := by decide
      simp [Delimiter.Follows, or_imp, forall_and, hblank]
  constructor
  · rintro ⟨rest, hrest, h⟩
    rcases List.eq_nil_or_concat rest with rfl | ⟨shorter, last, rfl⟩
    · rw [List.append_nil] at hrest
      exact absurd (hrest ▸ List.mem_append_right content List.mem_cons_self) hmark
    · rw [List.concat_eq_append] at h hrest
      rw [← List.append_assoc] at hrest
      obtain ⟨rfl, hlast⟩ := List.append_inj' hrest rfl
      obtain rfl := List.singleton_inj.mp hlast
      exact ⟨shorter, rfl, (hfollows shorter).mp h⟩
  · rintro ⟨rest, rfl, h⟩
    exact ⟨rest ++ [carriageReturn], List.append_assoc .., (hfollows rest).mpr h⟩

theorem delimiter?_eq_some_iff {boundary : String} (hb : OnLine boundary) {line : List UInt8}
    {kind : Delimiter} :
    delimiter? (markOf boundary) line = some kind ↔ Delimits boundary line kind := by
  rw [delimiter?_eq_some_iff_content]
  simp only [Delimits, unbroken_iff]
  rcases withoutLineBreak_cases line with h | h
  · rw [h]
  · rw [h, follows_concat hb.not_mem_markOf.1]

-- ---------------------------------------------------------------------------
-- Lines by their places
-- ---------------------------------------------------------------------------

/-- `line` is a line of a body where it stands between `before` and `after`: it begins where the
body does or behind a line feed, and ends with its only line feed or where the body does. -/
structure IsLine (before line after : List UInt8) : Prop where
  begins : before = [] ∨ [lineFeed] <:+ before
  ends : (∃ content, line = content ++ [lineFeed] ∧ lineFeed ∉ content) ∨
    line ≠ [] ∧ lineFeed ∉ line ∧ after = []

structure Mark where
  start : Nat
  stop : Nat
  kind : Delimiter

def Mark.StandsIn (body : List UInt8) (boundary : String) (mark : Mark) : Prop :=
  ∃ before line after, body = before ++ line ++ after ∧ IsLine before line after ∧
    mark.start = before.length ∧ mark.stop = (before ++ line).length ∧
    Delimits boundary line mark.kind

theorem IsLine.append {front before line after : List UInt8} (h : IsLine before line after)
    (hfront : [lineFeed] <:+ front) : IsLine (front ++ before) line after := by
  refine ⟨.inr ?_, h.ends⟩
  rcases h.begins with rfl | hbefore
  · rwa [List.append_nil]
  · exact hbefore.trans (List.suffix_append front before)

theorem isLine_of_piecesAfter {body line : List UInt8} {earlier later : List (List UInt8)}
    (h : Text.piecesAfter lineFeed body = earlier ++ line :: later) :
    IsLine earlier.flatten line later.flatten := by
  induction body using Text.induction_line lineFeed generalizing earlier with
  | last whole hwhole =>
    by_cases hne : whole = []
    · subst hne
      exact absurd h (by simp [Text.piecesAfter])
    · rw [Text.piecesAfter_of_not_mem hwhole hne, eq_comm, List.append_eq_singleton_iff] at h
      rcases h with ⟨rfl, h⟩ | ⟨-, h⟩
      · obtain ⟨rfl, rfl⟩ := List.cons.inj h
        exact ⟨.inl rfl, .inr ⟨hne, hwhole, rfl⟩⟩
      · cases h
  | more content rest hcontent ih =>
    rw [Text.piecesAfter_line_append rest hcontent] at h
    cases earlier with
    | nil =>
      obtain ⟨rfl, rfl⟩ := List.cons.inj h
      exact ⟨.inl rfl, .inl ⟨content, rfl, hcontent⟩⟩
    | cons first earlier =>
      obtain ⟨rfl, hrest⟩ := List.cons.inj h
      exact (ih hrest).append (List.suffix_append content [lineFeed])

theorem IsLine.piecesAfter {before line after : List UInt8} (h : IsLine before line after) :
    Text.piecesAfter lineFeed (before ++ line ++ after) =
      Text.piecesAfter lineFeed before ++ line :: Text.piecesAfter lineFeed after := by
  have hline : Text.piecesAfter lineFeed (line ++ after) =
      line :: Text.piecesAfter lineFeed after := by
    rcases h.ends with ⟨content, rfl, hcontent⟩ | ⟨hne, hline, rfl⟩
    · simpa using Text.piecesAfter_line_append after hcontent
    · rw [List.append_nil, Text.piecesAfter_of_not_mem hline hne]
      rfl
  rw [List.append_assoc, ← hline]
  rcases h.begins with rfl | ⟨front, rfl⟩
  · rfl
  · simpa using Text.piecesAfter_append_stop lineFeed front (line ++ after)

def marksFrom (boundary : String) (pos : Nat) : List (List UInt8) → List Mark
  | [] => []
  | line :: rest =>
    ((delimiter? (markOf boundary) line).map (Mark.mk pos (pos + line.length))).toList ++
      marksFrom boundary (pos + line.length) rest

theorem le_start_of_mem_marksFrom {boundary : String} {pos : Nat} {lines : List (List UInt8)}
    {mark : Mark} (h : mark ∈ marksFrom boundary pos lines) : pos ≤ mark.start := by
  induction lines generalizing pos with
  | nil => exact nomatch h
  | cons line rest ih =>
    rcases List.mem_append.mp h with h | h
    · obtain ⟨kind, -, rfl⟩ := Option.map_eq_some_iff.mp (Option.mem_toList.mp h)
      exact Nat.le_refl _
    · exact Nat.le_trans (Nat.le_add_right ..) (ih h)

theorem pairwise_marksFrom (boundary : String) (pos : Nat) (lines : List (List UInt8)) :
    (marksFrom boundary pos lines).Pairwise fun a b => a.stop ≤ b.start := by
  induction lines generalizing pos with
  | nil => exact .nil
  | cons line rest ih =>
    rw [marksFrom, List.pairwise_append]
    refine ⟨?_, ih _, fun a ha b hb => ?_⟩
    · cases delimiter? (markOf boundary) line <;> simp
    · obtain ⟨kind, -, rfl⟩ := Option.map_eq_some_iff.mp (Option.mem_toList.mp ha)
      exact le_start_of_mem_marksFrom hb

theorem mem_marksFrom {boundary : String} {pos : Nat} {lines : List (List UInt8)} {mark : Mark} :
    mark ∈ marksFrom boundary pos lines ↔ ∃ earlier line later,
      lines = earlier ++ line :: later ∧ mark.start = pos + earlier.flatten.length ∧
        mark.stop = mark.start + line.length ∧
        delimiter? (markOf boundary) line = some mark.kind := by
  induction lines generalizing pos with
  | nil => simp [marksFrom]
  | cons first rest ih =>
    rw [marksFrom, List.mem_append, ih, Option.mem_toList, Option.map_eq_some_iff]
    constructor
    · rintro (⟨kind, hkind, rfl⟩ | ⟨earlier, line, later, rfl, hstart, hstop, hkind⟩)
      · exact ⟨[], first, rest, rfl, rfl, rfl, hkind⟩
      · exact ⟨first :: earlier, line, later, rfl, by simp [hstart, Nat.add_assoc], hstop, hkind⟩
    · rintro ⟨earlier, line, later, hlines, hstart, hstop, hkind⟩
      cases earlier with
      | nil =>
        obtain ⟨rfl, rfl⟩ := List.cons.inj hlines
        obtain ⟨start, stop, kind⟩ := mark
        obtain rfl : start = pos := hstart
        obtain rfl : stop = start + first.length := hstop
        exact .inl ⟨kind, hkind, rfl⟩
      | cons _ earlier =>
        obtain ⟨rfl, rfl⟩ := List.cons.inj hlines
        exact .inr ⟨earlier, line, later, rfl, by simp [hstart, Nat.add_assoc], hstop, hkind⟩

-- ---------------------------------------------------------------------------
-- Sections
-- ---------------------------------------------------------------------------

inductive Divides (body : List UInt8) : List Mark → List (List UInt8) → Prop
  | closed {mark : Mark} (marks : List Mark) (h : mark.kind = .closing) :
      Divides body (mark :: marks) []
  | last {mark : Mark} (h : mark.kind = .opening) :
      Divides body [mark] [body.drop mark.stop]
  | more {mark next : Mark} {marks : List Mark} {between piece : List UInt8}
      {sections : List (List UInt8)} (h : mark.kind = .opening)
      (hbetween : slice? body mark.stop next.start = some between)
      (hpiece : Unbroken between piece) (hrest : Divides body (next :: marks) sections) :
      Divides body (mark :: next :: marks) (piece :: sections)

theorem divides_sectionsFrom {boundary : String} {body front content : List UInt8}
    {held lines : List (List UInt8)} {mark : Mark} (hkind : mark.kind = .opening)
    (hstop : mark.stop = front.length) (hheld : held.reverse.flatten = content)
    (hbody : body = front ++ content ++ lines.flatten) :
    Divides body (mark :: marksFrom boundary (front ++ content).length lines)
      (sectionsFrom (markOf boundary) held lines) := by
  induction lines generalizing front content held mark with
  | nil =>
    have hrest : body.drop mark.stop = held.reverse.flatten := by
      simp [hbody, hstop, hheld]
    rw [sectionsFrom, ← hrest]
    exact .last hkind
  | cons line rest ih =>
    have hnext : (front ++ content).length + line.length = (front ++ (content ++ line)).length := by
      rw [← List.length_append, List.append_assoc]
    have hbetween : slice? body mark.stop (front ++ content).length = some content :=
      Text.slice?_eq_some_iff.mpr
        ⟨front, (line :: rest).flatten, hbody, hstop.symm, by simp⟩
    rw [marksFrom, sectionsFrom, hheld]
    cases hdelimiter : delimiter? (markOf boundary) line with
    | none =>
      rw [hnext]
      exact ih hkind hstop (by simp [hheld]) (by simp [hbody])
    | some kind =>
      cases kind with
      | closing => exact .more hkind hbetween (unbroken_iff.mpr rfl) (.closed _ rfl)
      | opening =>
        refine .more hkind hbetween (unbroken_iff.mpr rfl) ?_
        -- the next section starts empty, behind the line
        have hempty : (front ++ content ++ line ++ []).length =
            (front ++ content).length + line.length := by
          rw [List.append_nil, List.length_append]
        rw [← hempty]
        exact ih rfl (by simp) rfl (by simp [hbody])

theorem divides_lines {boundary : String} {body front : List UInt8} {lines : List (List UInt8)}
    (hbody : body = front ++ lines.flatten) :
    match lines.dropWhile fun line => (delimiter? (markOf boundary) line).isNone with
    | [] => marksFrom boundary front.length lines = []
    | line :: rest => marksFrom boundary front.length lines ≠ [] ∧
      Divides body (marksFrom boundary front.length lines)
        (if delimiter? (markOf boundary) line = some .closing then []
          else sectionsFrom (markOf boundary) [] rest) := by
  induction lines generalizing front with
  | nil => rfl
  | cons line rest ih =>
    rw [List.dropWhile_cons]
    cases hdelimiter : delimiter? (markOf boundary) line with
    | none =>
      have hrest := @ih (front ++ line) (by simp [hbody])
      simpa [marksFrom, hdelimiter] using hrest
    | some kind =>
      have hlength : (front ++ line ++ []).length = front.length + line.length := by simp
      simp only [marksFrom, hdelimiter, Option.isNone_some, Bool.false_eq_true, if_false,
        Option.map_some, Option.toList_some, List.singleton_append]
      refine ⟨List.cons_ne_nil _ _, ?_⟩
      cases kind with
      | closing => exact .closed _ rfl
      | opening =>
        rw [← hlength]
        exact divides_sectionsFrom rfl (by simp) rfl (by simp [hbody])

theorem mem_marksFrom_iff {boundary : String} (hb : OnLine boundary) {body : List UInt8}
    {mark : Mark} :
    mark ∈ marksFrom boundary 0 (Text.piecesAfter lineFeed body) ↔
      mark.StandsIn body boundary := by
  rw [mem_marksFrom]
  constructor
  · rintro ⟨earlier, line, later, hlines, hstart, hstop, hkind⟩
    refine ⟨earlier.flatten, line, later.flatten, ?_, isLine_of_piecesAfter hlines, ?_, ?_,
      (delimiter?_eq_some_iff hb).mp hkind⟩
    · rw [← Text.flatten_piecesAfter lineFeed body, hlines]
      simp
    · rw [hstart, Nat.zero_add]
    · rw [hstop, hstart, Nat.zero_add, List.length_append]
  · rintro ⟨before, line, after, rfl, hline, hstart, hstop, hkind⟩
    refine ⟨_, line, _, hline.piecesAfter, ?_, ?_, (delimiter?_eq_some_iff hb).mpr hkind⟩
    · rw [hstart, Nat.zero_add, Text.flatten_piecesAfter]
    · rw [hstop, hstart, List.length_append]

/-- A body is cut at all of its delimiter lines, in their order, up to the first closing one. If
there is none, it is refused. -/
theorem split_between {boundary : String} (hb : OnLine boundary) (body : List UInt8) :
    ∃ marks : List Mark, (∀ mark, mark ∈ marks ↔ mark.StandsIn body boundary) ∧
      marks.Pairwise (fun a b => a.stop ≤ b.start) ∧
      (marks = [] → split body boundary = .error (.noDelimiter boundary)) ∧
      (marks ≠ [] → ∃ sections, split body boundary = .ok sections ∧
        Divides body marks sections) := by
  refine ⟨marksFrom boundary 0 (Text.piecesAfter lineFeed body), fun mark => mem_marksFrom_iff hb,
    pairwise_marksFrom _ _ _, ?_⟩
  have hlines := @divides_lines boundary body [] (Text.piecesAfter lineFeed body)
    (Text.flatten_piecesAfter lineFeed body).symm
  rw [List.length_nil] at hlines
  simp only [split]
  cases hfirst : (Text.piecesAfter lineFeed body).dropWhile fun line =>
      (delimiter? (markOf boundary) line).isNone with
  | nil =>
    rw [hfirst] at hlines
    exact ⟨fun _ => rfl, fun hne => absurd hlines hne⟩
  | cons line rest =>
    rw [hfirst] at hlines
    refine ⟨fun hnil => absurd hnil hlines.1, fun _ => ⟨_, ?_, hlines.2⟩⟩
    by_cases hclosing : delimiter? (markOf boundary) line = some .closing
    · simp only [hclosing, if_true]
    · simp only [hclosing, if_false]

/-- The last section of a body that no closing delimiter line ends keeps its line break. -/
theorem split_between_unclosed :
    OnLine "b" ∧ ∃ marks : List Mark, ∃ sections,
      (∀ mark, mark ∈ marks ↔
        mark.StandsIn (Text.bytes "pre\n--b\r\none\r\n--b \ntwo\n") "b") ∧
      split (Text.bytes "pre\n--b\r\none\r\n--b \ntwo\n") "b" = .ok sections ∧
      Divides (Text.bytes "pre\n--b\r\none\r\n--b \ntwo\n") marks sections ∧
      sections = [Text.bytes "one", Text.bytes "two\n"] := by
  have hb : OnLine "b" := by decide
  have hsplit : split (Text.bytes "pre\n--b\r\none\r\n--b \ntwo\n") "b" =
      .ok [Text.bytes "one", Text.bytes "two\n"] := rfl
  obtain ⟨marks, hmarks, -, hnone, hsome⟩ :=
    split_between hb (Text.bytes "pre\n--b\r\none\r\n--b \ntwo\n")
  have hne : marks ≠ [] := fun hnil => by
    rw [hnone hnil] at hsplit
    cases hsplit
  obtain ⟨sections, hsections, hdivides⟩ := hsome hne
  rw [hsections] at hsplit
  exact ⟨hb, marks, sections, hmarks, hsections, hdivides, Except.ok.inj hsplit⟩

end Mailroom.Mime.Multipart
