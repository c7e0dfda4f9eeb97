import Mailroom.Mime.Message
import Mailroom.Proofs.Mime.Header
import Mailroom.Proofs.Text.Slice

/-!
# Where parts stand in a message

The body of a message ends it, and the bodies of its parts stand in it one after the other,
whatever the bytes are: every cut gives pieces that stand in what was cut. A reading by places,
in which every range is checked before it is taken, never finds one that is inverted or reaches
over the end, and comes to the same message.
-/

namespace Mailroom.Mime

open Text (slice? find? Within)

-- ---------------------------------------------------------------------------
-- Cuts by places
-- ---------------------------------------------------------------------------

def splitHead? (raw : List UInt8) : Option (List UInt8 × List UInt8) :=
  match Text.dropPrefix? lineBreak raw, Text.dropPrefix? [lineFeed] raw with
  | some body, _ => some ([], body)
  | none, some body => some ([], body)
  | none, none =>
    let crlf := (find? (lineBreak ++ lineBreak) raw).map fun place => (place + 2, place + 4)
    let lf := (find? [lineFeed, lineFeed] raw).map fun place => (place + 1, place + 2)
    let places := match crlf, lf with
      | some a, some b => some (if a.1 ≤ b.1 then a else b)
      | a, b => a.or b
    match places with
    | none => some (raw, [])
    | some (stop, start) => do
      let head ← slice? raw 0 stop
      let body ← slice? raw start raw.length
      return (head, body)

namespace Multipart

def lineEnd (body rest : List UInt8) (pos : Nat) : Nat :=
  match find? [lineFeed] rest with
  | some i => pos + i + 1
  | none => body.length

theorem lt_lineEnd {body : List UInt8} {pos : Nat} (rest : List UInt8) (h : pos < body.length) :
    pos < lineEnd body rest pos := by
  unfold lineEnd
  split
  · exact Nat.lt_succ_of_le (Nat.le_add_right ..)
  · exact h

def close? (body : List UInt8) (start? : Option Nat) (sections : List (List UInt8)) (pos : Nat) :
    Option (List (List UInt8)) :=
  match start? with
  | none => some sections
  | some start => (slice? body start pos).map fun s => sections ++ [withoutLineBreak s]

/-- The scan of a body line by line. `start?` is where the section under way starts, if a
delimiter was seen, and `sections` are the sections before it. -/
def scan? (body : List UInt8) (boundary : String) (start? : Option Nat)
    (sections : List (List UInt8)) (pos : Nat) : Option (Except Error (List (List UInt8))) :=
  if _h : pos < body.length then do
    let rest ← slice? body pos body.length
    let stop := lineEnd body rest pos
    let line ← slice? body pos stop
    match delimiter? (markOf boundary) line with
    | none => scan? body boundary start? sections stop
    | some .closing => return .ok (← close? body start? sections pos)
    | some .opening => scan? body boundary (some stop) (← close? body start? sections pos) stop
  else
    match start? with
    | none => return .error (.noDelimiter boundary)
    | some start => (slice? body start body.length).map fun s => .ok (sections ++ [s])
termination_by body.length - pos
decreasing_by all_goals have := lt_lineEnd rest _h; omega

def split? (body : List UInt8) (boundary : String) : Option (Except Error (List (List UInt8))) :=
  scan? body boundary none [] 0

theorem exists_later (before : List UInt8) {rest line : List UInt8} {lines : List (List UInt8)}
    (h : Text.piecesAfter lineFeed rest = line :: lines) :
    ∃ later, rest = line ++ later ∧ line ≠ [] ∧ Text.piecesAfter lineFeed later = lines ∧
      lineEnd (before ++ rest) rest before.length = (before ++ line).length := by
  by_cases hlf : lineFeed ∈ rest
  · obtain ⟨content, later, rfl, hcontent⟩ := List.eq_append_cons_of_mem hlf
    rw [Text.piecesAfter_line_append later hcontent] at h
    obtain ⟨rfl, hlater⟩ := List.cons.inj h
    refine ⟨later, by simp, by simp, hlater, ?_⟩
    rw [lineEnd, Text.find?_eq_cut, Text.cut_singleton_append later hcontent]
    simp [Nat.add_assoc]
  · have hne : rest ≠ [] := by
      rintro rfl
      simp [Text.piecesAfter] at h
    rw [Text.piecesAfter_of_not_mem hlf hne] at h
    obtain ⟨rfl, rfl⟩ := List.cons.inj h
    refine ⟨[], by simp, hne, rfl, ?_⟩
    rw [lineEnd, Text.find?_eq_cut, Text.cut_singleton_of_not_mem hlf]
    rfl

theorem eq_nil_of_piecesAfter {rest : List UInt8} (h : Text.piecesAfter lineFeed rest = []) :
    rest = [] :=
  Decidable.byContradiction fun hne => Text.piecesAfter_ne_nil lineFeed hne h

section Scan

variable {body before line later : List UInt8} {boundary : String}

theorem scan?_line {start? : Option Nat} {sections : List (List UInt8)}
    (hbody : body = before ++ (line ++ later)) (hne : line ≠ [])
    (hend : lineEnd body (line ++ later) before.length = (before ++ line).length) :
    scan? body boundary start? sections before.length =
      match delimiter? (markOf boundary) line with
      | none => scan? body boundary start? sections (before ++ line).length
      | some .closing => (close? body start? sections before.length).map .ok
      | some .opening => (close? body start? sections before.length).bind fun sections =>
          scan? body boundary (some (before ++ line).length) sections (before ++ line).length := by
  have hpos : before.length < body.length := by
    have := List.length_pos_iff.mpr hne
    simp only [hbody, List.length_append]
    omega
  have hrest : slice? body before.length body.length = some (line ++ later) :=
    Text.slice?_eq_some_iff.mpr ⟨before, [], by simp [hbody], rfl, by simp [hbody]⟩
  have hline : slice? body before.length (before ++ line).length = some line :=
    Text.slice?_eq_some_iff.mpr ⟨before, later, by simp [hbody], rfl, by simp⟩
  rw [scan?.eq_def, dif_pos hpos, hrest, Option.bind_eq_bind, Option.bind_some]
  simp only [hend, hline, Option.bind_eq_bind, Option.bind_some]
  split
  · rfl
  · exact (Option.map_eq_bind ..).symm
  · rfl

theorem close?_section {front content rest : List UInt8} (sections : List (List UInt8))
    (hbody : body = front ++ content ++ rest) :
    close? body (some front.length) sections (front ++ content).length =
      some (sections ++ [withoutLineBreak content]) := by
  have hcontent : slice? body front.length (front ++ content).length = some content :=
    Text.slice?_eq_some_iff.mpr ⟨front, rest, hbody, rfl, List.length_append.symm⟩
  rw [close?, hcontent]
  rfl

/-- From an opening delimiter on, the scan finds the sections in the lines that follow. `held` are
the lines of the section under way, and `content` is what they hold. -/
theorem scan?_section {front content rest : List UInt8} (held sections : List (List UInt8))
    (hbody : body = front ++ content ++ rest) (hheld : held.reverse.flatten = content) :
    scan? body boundary (some front.length) sections (front ++ content).length =
      some (.ok (sections ++
        sectionsFrom (markOf boundary) held (Text.piecesAfter lineFeed rest))) := by
  induction hlines : Text.piecesAfter lineFeed rest
    generalizing front content rest held sections with
  | nil =>
    have hrest := eq_nil_of_piecesAfter hlines
    have hcontent : slice? body front.length body.length = some content :=
      Text.slice?_eq_some_iff.mpr ⟨front, rest, hbody, rfl, by simp [hbody, hrest]⟩
    rw [scan?.eq_def, dif_neg (by simp [hbody, hrest]), sectionsFrom, hheld]
    simp only [hcontent, Option.map_some]
  | cons first lines ih =>
    obtain ⟨later, rfl, hline, hlater, hend⟩ := exists_later (front ++ content) hlines
    rw [scan?_line hbody hline (hbody ▸ hend), sectionsFrom]
    have hnext : body = front ++ (content ++ first) ++ later := by simp [hbody]
    cases delimiter? (markOf boundary) first with
    | none =>
      -- the line belongs to the section
      rw [List.append_assoc]
      exact ih _ sections hnext (by simp [hheld]) hlater
    | some kind =>
      rw [close?_section sections hbody, hheld]
      cases kind with
      | closing => rfl
      | opening =>
        -- the next section starts empty, behind the line
        have hbehind : body = front ++ content ++ first ++ [] ++ later := by simp [hbody]
        simpa using ih [] (sections ++ [withoutLineBreak content]) hbehind rfl hlater

theorem scan?_preamble {rest : List UInt8} (hbody : body = before ++ rest) :
    scan? body boundary none [] before.length = some (split rest boundary) := by
  induction hlines : Text.piecesAfter lineFeed rest generalizing before rest with
  | nil =>
    have hrest := eq_nil_of_piecesAfter hlines
    rw [scan?.eq_def, dif_neg (by simp [hbody, hrest]), hrest]
    rfl
  | cons first lines ih =>
    obtain ⟨later, rfl, hline, hlater, hend⟩ := exists_later before hlines
    have hnext : body = before ++ first ++ later := by simp [hbody]
    rw [scan?_line hbody hline (hbody ▸ hend)]
    cases hkind : delimiter? (markOf boundary) first with
    | none => simpa [split, hlines, hlater, hkind] using ih hnext hlater
    | some kind =>
      cases kind with
      | closing => simp [split, hlines, hkind, close?]
      | opening =>
        have hbehind : body = before ++ first ++ [] ++ later := by simp [hbody]
        simpa [split, hlines, hkind, close?, hlater] using
          scan?_section [] [] hbehind rfl

end Scan

theorem split?_eq (body : List UInt8) (boundary : String) :
    split? body boundary = some (split body boundary) :=
  scan?_preamble (List.nil_append body).symm

end Multipart

def Part.boundary? (p : Part) : Option String := do
  let type ← p.contentType.toOption
  if !type.isMultipart then none
  type.boundary?

def Part.parse? (raw : List UInt8) : Option Part :=
  (splitHead? raw).map fun (head, body) => ⟨Headers.parse (Text.ofBytesLenient head), body⟩

theorem slice?_of_cut {kept dropped raw head body : List UInt8}
    (h : Text.cut (kept ++ dropped) raw = some (head, body)) :
    slice? raw 0 (head.length + kept.length) = some (head ++ kept) ∧
      slice? raw (head.length + (kept ++ dropped).length) raw.length = some body := by
  obtain rfl := Text.eq_of_cut h
  exact ⟨Text.slice?_eq_some_iff.mpr ⟨[], dropped ++ body, by simp, rfl, by simp⟩,
    Text.slice?_eq_some_iff.mpr ⟨head ++ (kept ++ dropped), [], by simp, by simp,
      by simp [Nat.add_assoc]⟩⟩

theorem splitHead?_eq (raw : List UInt8) : splitHead? raw = some (splitHead raw) := by
  unfold splitHead? splitHead
  simp only [lineBreak, Text.find?_eq_cut]
  cases Text.dropPrefix? [carriageReturn, lineFeed] raw with
  | some body => rfl
  | none =>
    cases Text.dropPrefix? [lineFeed] raw with
    | some body => rfl
    | none =>
      have hcrlf := @slice?_of_cut [carriageReturn, lineFeed] [carriageReturn, lineFeed] raw
      have hlf := @slice?_of_cut [lineFeed] [lineFeed] raw
      simp only [List.cons_append, List.nil_append, List.length_cons, List.length_nil,
        Nat.zero_add, Nat.reduceAdd] at hcrlf hlf ⊢
      cases ha : Text.cut [carriageReturn, lineFeed, carriageReturn, lineFeed] raw with
      | none =>
        cases hb : Text.cut [lineFeed, lineFeed] raw with
        | none => rfl
        | some b => simp [hlf hb]
      | some a =>
        cases hb : Text.cut [lineFeed, lineFeed] raw with
        | none => simp [hcrlf ha]
        | some b =>
          by_cases hle : a.1.length + 2 ≤ b.1.length + 1
          · simp [hle, hcrlf ha]
          · simp [hle, hlf hb]

theorem Part.parse?_eq (raw : List UInt8) : Part.parse? raw = some (Part.parse raw) := by
  rw [Part.parse?, splitHead?_eq]
  rfl

theorem Part.sections?_eq (p : Part) : p.sections? =
    p.boundary?.bind fun boundary => (Multipart.split p.body boundary).toOption := by
  unfold Part.sections? Part.boundary?
  cases p.contentType.toOption with
  | none => rfl
  | some type => cases h : type.isMultipart <;> simp [h]

theorem mapM_of_eq {α β : Type} {f? : α → Option β} {f : α → β} (h : ∀ x, f? x = some (f x))
    (xs : List α) : xs.mapM f? = some (xs.map f) := by
  rw [funext h]
  exact List.mapM_pure

namespace Message

def leaves? : (levels : Nat) → Part → Option (List Part)
  | 0, p => some [p]
  | levels + 1, p =>
    match p.boundary? with
    | none => some [p]
    | some boundary => do
      match ← Multipart.split? p.body boundary with
      | .error _ => return [p]
      | .ok sections =>
        let children ← sections.mapM Part.parse?
        return (← children.mapM (leaves? levels)).flatten

def parse? (raw : List UInt8) : Option (Except Error Message) := do
  let whole ← Part.parse? raw
  match whole.contentType with
  | .error _ => return .ok ⟨whole, []⟩
  | .ok type =>
    if !type.isMultipart then return .ok ⟨whole, []⟩
    else match type.boundary? with
      | none => return .error .missingBoundary
      | some boundary => do
        match ← Multipart.split? whole.body boundary with
        | .error error => return .error error
        | .ok sections =>
          let children ← sections.mapM Part.parse?
          return .ok ⟨whole, (← children.mapM (leaves? (maxLevels - 1))).flatten⟩

theorem leaves?_eq (levels : Nat) (p : Part) : leaves? levels p = some (leaves levels p) := by
  induction levels generalizing p with
  | zero => rfl
  | succ levels ih =>
    rw [leaves?, leaves, Part.sections?_eq]
    cases p.boundary? with
    | none => rfl
    | some boundary =>
      simp only [Multipart.split?_eq, Option.bind_eq_bind, Option.bind_some]
      cases Multipart.split p.body boundary with
      | error error => rfl
      | ok sections =>
        simp [mapM_of_eq Part.parse?_eq, mapM_of_eq ih, Except.toOption, List.flatMap_def,
          Function.comp_def]

/-- Whatever the bytes are, no range that is taken of them is inverted or reaches over the end,
and the reading by places comes to the same. -/
theorem parse?_eq (raw : List UInt8) : parse? raw = some (parse raw) := by
  rw [parse?, Part.parse?_eq, Option.bind_eq_bind, Option.bind_some]
  simp only [parse]
  generalize Part.parse raw = whole
  cases whole.contentType with
  | error error => rfl
  | ok type =>
    cases hmulti : type.isMultipart with
    | false => simp [hmulti]
    | true =>
      cases hboundary : type.boundary? with
      | none => simp [hmulti, hboundary]
      | some boundary =>
        simp only [hmulti, hboundary, Multipart.split?_eq, Option.bind_eq_bind, Option.bind_some]
        cases Multipart.split whole.body boundary with
        | error error => rfl
        | ok sections =>
          simp [mapM_of_eq Part.parse?_eq, mapM_of_eq (leaves?_eq _), List.flatMap_def,
            Function.comp_def, bind, Except.bind, pure, Except.pure]

end Message

-- ---------------------------------------------------------------------------
-- Pieces of what is cut
-- ---------------------------------------------------------------------------

theorem splitHead_suffix (raw : List UInt8) : (splitHead raw).2 <:+ raw := by
  have hcut {sep head body : List UInt8} (h : Text.cut sep raw = some (head, body)) :
      body <:+ raw := ⟨head ++ sep, (Text.eq_of_cut h).symm⟩
  unfold splitHead
  dsimp only
  split
  · next h => exact ⟨_, (Text.dropPrefix?_eq_some_iff.mp h).symm⟩
  · next h => exact ⟨_, (Text.dropPrefix?_eq_some_iff.mp h).symm⟩
  · split
    · next hcrlf hlf =>
      split
      · exact hcut hcrlf
      · exact hcut hlf
    · next hcrlf _ => exact hcut hcrlf
    · next _ hlf => exact hcut hlf
    · exact List.nil_suffix

theorem Part.body_suffix (raw : List UInt8) : (Part.parse raw).body <:+ raw := splitHead_suffix raw

namespace Multipart

theorem prefix_withoutLineBreak (content : List UInt8) : withoutLineBreak content <+: content := by
  unfold withoutLineBreak
  split
  · next h => exact ⟨_, (Text.dropSuffix?_eq_some_iff.mp h).symm⟩
  · cases h : Text.dropSuffix? [lineFeed] content with
    | none => exact List.prefix_refl content
    | some shorter => exact ⟨_, (Text.dropSuffix?_eq_some_iff.mp h).symm⟩

theorem within_sectionsFrom (mark : List UInt8) (held lines : List (List UInt8)) :
    Within (sectionsFrom mark held lines) (held.reverse.flatten ++ lines.flatten) := by
  induction lines generalizing held with
  | nil => exact .single (List.prefix_append ..).isInfix
  | cons line rest ih =>
    have hclosed : Within [withoutLineBreak held.reverse.flatten] held.reverse.flatten :=
      .single (prefix_withoutLineBreak _).isInfix
    rw [sectionsFrom]
    cases delimiter? mark line with
    | none => simpa using ih (line :: held)
    | some kind =>
      cases kind with
      | closing => exact hclosed.before _
      | opening => exact hclosed.append ((ih []).behind line)

theorem within_split {body : List UInt8} {boundary : String} {sections : List (List UInt8)}
    (h : split body boundary = .ok sections) : Within sections body := by
  let skipped (line : List UInt8) : Bool := (delimiter? (markOf boundary) line).isNone
  have hlines : ((Text.piecesAfter lineFeed body).takeWhile skipped).flatten ++
      ((Text.piecesAfter lineFeed body).dropWhile skipped).flatten = body := by
    rw [← List.flatten_append, List.takeWhile_append_dropWhile, Text.flatten_piecesAfter]
  rw [← hlines]
  refine Within.behind _ ?_
  unfold split at h
  dsimp only at h
  split at h
  · exact nomatch h
  · next line rest hrest =>
    rw [show (Text.piecesAfter lineFeed body).dropWhile skipped = line :: rest from hrest]
    split at h
    · obtain rfl := Except.ok.inj h
      exact .nil _
    · obtain rfl := Except.ok.inj h
      exact (within_sectionsFrom _ [] rest).behind line

end Multipart

theorem Part.within_sections? {p : Part} {sections : List (List UInt8)}
    (h : p.sections? = some sections) : Within sections p.body := by
  rw [Part.sections?_eq] at h
  obtain ⟨boundary, -, hsplit⟩ := Option.bind_eq_some_iff.mp h
  exact Multipart.within_split (Answer.toOption_eq_some_iff.mp hsplit)

namespace Message

theorem within_leaves (levels : Nat) (p : Part) :
    Within ((leaves levels p).map (·.body)) p.body := by
  have hself : Within ([p].map (·.body)) p.body := .single (List.infix_refl _)
  induction levels generalizing p with
  | zero => exact hself
  | succ levels ih =>
    rw [leaves]
    cases hsections : p.sections? with
    | none => exact hself
    | some sections =>
      simp only [List.map_flatMap]
      exact (Part.within_sections? hsections).flatMap fun raw _ =>
        (ih (Part.parse raw) (.single (List.infix_refl _))).mono (Part.body_suffix raw).isInfix

theorem within_parse {raw : List UInt8} {m : Message} (h : parse raw = .ok m) :
    m.toPart = Part.parse raw ∧ Within (m.parts.map (·.body)) m.body := by
  unfold parse at h
  dsimp only at h
  split at h
  · obtain rfl := Except.ok.inj h
    exact ⟨rfl, .nil _⟩
  · split at h
    · obtain rfl := Except.ok.inj h
      exact ⟨rfl, .nil _⟩
    · split at h
      · exact nomatch h
      · next boundary _ =>
        cases hsections : Multipart.split (Part.parse raw).body boundary with
        | error error => exact nomatch hsections ▸ h
        | ok sections =>
          rw [hsections] at h
          obtain rfl := Except.ok.inj h
          refine ⟨rfl, ?_⟩
          simp only [List.map_flatMap]
          exact (Multipart.within_split hsections).flatMap fun section_ _ =>
            (within_leaves _ _).mono (Part.body_suffix section_).isInfix

/-- The body of a message ends it, and the bodies of its parts are ranges of it that come one
after the other: no byte is invented, stands in two parts or changes its place. No range that is
taken on the way is inverted or reaches over the end. -/
theorem parse_places {raw : List UInt8} {m : Message} (h : parse raw = .ok m) :
    m.body <:+ raw ∧
    (∃ places : List (Nat × Nat),
      places.map (fun place => slice? raw place.1 place.2) = m.parts.map (fun p => some p.body) ∧
      (Text.ends places raw.length).Pairwise (· ≤ ·)) ∧
    parse? raw = some (.ok m) := by
  obtain ⟨hwhole, hparts⟩ := within_parse h
  have hbody : m.body <:+ raw := hwhole ▸ Part.body_suffix raw
  refine ⟨hbody, ?_, (parse?_eq raw).trans (congrArg some h)⟩
  simpa only [List.map_map, Function.comp_def] using
    (hparts.mono hbody.isInfix).exists_places

/-- A multipart in a multipart, with line feeds alone, no closing delimiter and nothing behind the
last delimiter of the inner one. -/
def unclosed : List UInt8 :=
  Text.bytes "Content-Type: multipart/mixed; boundary=a\n\n--a\n" ++
    Text.bytes "Content-Type: multipart/mixed; boundary=b\n\n--b\n\none\r\n--b\n\n--a\n\ntwo"

theorem parse_unclosed : parse unclosed = .ok ⟨Part.parse unclosed,
    [⟨⟨[]⟩, Text.bytes "one"⟩, ⟨⟨[]⟩, []⟩, ⟨⟨[]⟩, Text.bytes "two"⟩]⟩ :=
  Answer.toOption_eq_some_iff.mp (by decide +kernel)

theorem parse_places_unclosed :
    (Part.parse unclosed).body <:+ unclosed ∧
    (∃ places : List (Nat × Nat),
      places.map (fun place => slice? unclosed place.1 place.2) =
        [some (Text.bytes "one"), some [], some (Text.bytes "two")] ∧
      (Text.ends places unclosed.length).Pairwise (· ≤ ·)) ∧
    ∃ m, parse? unclosed = some (.ok m) := by
  obtain ⟨hbody, hplaces, hchecked⟩ := parse_places parse_unclosed
  exact ⟨hbody, hplaces, _, hchecked⟩

end Message

end Mailroom.Mime
