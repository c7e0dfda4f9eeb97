import Mailroom.Codec.QuotedPrintable
import Mailroom.Proofs.Text.Utf8

/-!
# What is read of quoted-printable text

A text is scanned from the left into pieces: bytes that stand for themselves, soft line breaks, and
escapes of two digits. What was encoded in any of the ways that the standard allows is read back
(`decode_encoded`). Reading also takes an escape with a plus sign in the place of its first digit,
and this is all that it takes beyond the standard: `decode_scanned` says which texts are read, as
which bytes, and when that is what the standard says of them.
-/

namespace Mailroom.Codec.QuotedPrintable

-- ---------------------------------------------------------------------------
-- Digits
-- ---------------------------------------------------------------------------

/-- The byte is the digit of this value, in either case. -/
def Spells (b : UInt8) (n : Nat) : Prop :=
  (Text.bytes "0123456789ABCDEF")[n]? = some b ∨ (Text.bytes "0123456789abcdef")[n]? = some b

instance (b : UInt8) (n : Nat) : Decidable (Spells b n) := inferInstanceAs (Decidable (_ ∨ _))

structure Digit where
  byte : UInt8
  value : Nat
  spells : Spells byte value

def Digit.join (high low : Digit) : UInt8 := UInt8.ofNat (16 * high.value + low.value)

theorem Digit.digit?_byte (d : Digit) : digit? d.byte = some d.value := by
  have hread : ∀ digits ∈ [Text.bytes "0123456789ABCDEF", Text.bytes "0123456789abcdef"],
      digits.length = 16 ∧ ∀ n < 16, ∀ b ∈ digits[n]?, digit? b = some n := by decide +kernel
  have hmem : ∃ digits ∈ [Text.bytes "0123456789ABCDEF", Text.bytes "0123456789abcdef"],
      digits[d.value]? = some d.byte := by
    simpa [Spells] using d.spells
  obtain ⟨digits, hdigits, hd⟩ := hmem
  obtain ⟨hlength, hvalues⟩ := hread digits hdigits
  obtain ⟨hlt, -⟩ := List.getElem?_eq_some_iff.mp hd
  exact hvalues d.value (hlength ▸ hlt) d.byte hd

theorem exists_digit {b : UInt8} {n : Nat} (h : digit? b = some n) :
    ∃ d : Digit, d.byte = b ∧ d.value = n :=
  have hspells :=
    Text.Utf8.forall_byte (p := fun b => ∀ n ∈ digit? b, Spells b n) (by decide +kernel) b n h
  ⟨⟨b, n, hspells⟩, rfl, rfl⟩

theorem Digit.plain (d : Digit) :
    d.byte.toNat < 0x80 ∧ d.byte ≠ 0x0d ∧ d.byte ≠ 0x0a ∧ d.byte ≠ 0x2b :=
  Text.Utf8.forall_byte (p := fun b => (digit? b).isSome = true →
      b.toNat < 0x80 ∧ b ≠ 0x0d ∧ b ≠ 0x0a ∧ b ≠ 0x2b)
    (by decide +kernel) d.byte (by rw [d.digit?_byte]; rfl)

-- ---------------------------------------------------------------------------
-- Pieces
-- ---------------------------------------------------------------------------

inductive Piece
  | literal (b : UInt8) (h : b ≠ 0x3d)
  /-- A soft line break, as CRLF or LF. -/
  | crlf
  | lf
  | escape (high low : Digit)
  /-- An escape with a plus sign in the place of its first digit. -/
  | signed (low : Digit)

namespace Piece

def written : Piece → List UInt8
  | literal b _ => [b]
  | crlf => [0x3d, 0x0d, 0x0a]
  | lf => [0x3d, 0x0a]
  | escape high low => [0x3d, high.byte, low.byte]
  | signed low => [0x3d, 0x2b, low.byte]

def meant : Piece → List UInt8
  | literal b _ => [b]
  | crlf => []
  | lf => []
  | escape high low => [high.join low]
  | signed low => [UInt8.ofNat low.value]

def Standard : Piece → Prop
  | signed _ => False
  | _ => True

theorem written_ne_nil (p : Piece) : p.written ≠ [] := by
  cases p <;> exact List.cons_ne_nil _ _

end Piece

theorem escaped_ascii {a b : UInt8} (ha : a.toNat < 0x80) (hb : b.toNat < 0x80) :
    escaped a b = match digit? b with
      | none => .error .notHex
      | some low => if a = 0x2b then .ok (UInt8.ofNat low) else match digit? a with
        | none => .error .notHex
        | some high => .ok (UInt8.ofNat (16 * high + low)) := by
  have htext : Text.Utf8.decode [a, b] = .ok [Char.ofNat a.toNat, Char.ofNat b.toNat] := by
    simp [Text.Utf8.decode, Text.Utf8.decodeFrom, Text.Utf8.first_ascii ha,
      Text.Utf8.first_ascii hb, Except.map]
  rw [escaped, htext]
  rfl

theorem escaped_digits (high low : Digit) : escaped high.byte low.byte = .ok (high.join low) := by
  rw [escaped_ascii high.plain.1 low.plain.1, low.digit?_byte, high.digit?_byte]
  exact if_neg high.plain.2.2.2

theorem escaped_plus (low : Digit) : escaped 0x2b low.byte = .ok (UInt8.ofNat low.value) := by
  rw [escaped_ascii (by decide) low.plain.1, low.digit?_byte]
  rfl

theorem decode_cons {b : UInt8} (h : b ≠ 0x3d) (text : List UInt8) :
    decode (b :: text) = (decode text).map (b :: ·) := by
  match text with
  | [] => simp [decode, h, Except.map]
  | [_] => rw [decode.eq_3, if_neg h]
  | _ :: _ :: _ => rw [decode, if_neg h]

theorem decode_escape {a b : UInt8} (ha : a ≠ 0x0d) (hb : a ≠ 0x0a) (text : List UInt8) :
    decode (0x3d :: a :: b :: text) = match escaped a b with
      | .error fault => .error fault
      | .ok byte => (decode text).map (byte :: ·) := by
  cases hescaped : escaped a b with
  | error fault => rw [decode, if_pos rfl, if_neg fun h => ha h.1, if_neg hb, hescaped]
  | ok byte => rw [decode, if_pos rfl, if_neg fun h => ha h.1, if_neg hb, hescaped]

theorem map_nil_append {ε : Type} (answer : Except ε (List UInt8)) :
    answer.map ([] ++ ·) = answer := by
  cases answer <;> rfl

theorem decode_written (p : Piece) (text : List UInt8) :
    decode (p.written ++ text) = (decode text).map (p.meant ++ ·) := by
  cases p with
  | literal b h => exact decode_cons h text
  | crlf =>
    show decode (0x3d :: 0x0d :: 0x0a :: text) = (decode text).map ([] ++ ·)
    rw [map_nil_append, decode, if_pos rfl, if_pos ⟨rfl, rfl⟩]
  | lf =>
    show decode (0x3d :: 0x0a :: text) = (decode text).map ([] ++ ·)
    rw [map_nil_append]
    match text with
    | [] => rfl
    | b :: text => rw [decode, if_pos rfl, if_neg fun h => absurd h.1 (by decide), if_pos rfl]
  | escape high low =>
    refine (decode_escape high.plain.2.1 high.plain.2.2.1 text).trans ?_
    rw [escaped_digits]
    rfl
  | signed low =>
    refine (decode_escape (by decide) (by decide) text).trans ?_
    rw [escaped_plus]
    rfl

theorem decode_flatMap_written (pieces : List Piece) (text : List UInt8) :
    decode (pieces.flatMap Piece.written ++ text) =
      (decode text).map (pieces.flatMap Piece.meant ++ ·) := by
  induction pieces with
  | nil => exact (map_nil_append _).symm
  | cons p pieces ih =>
    rw [List.flatMap_cons, List.append_assoc, decode_written, ih, List.flatMap_cons]
    cases decode text <;> simp [Except.map]

-- ---------------------------------------------------------------------------
-- Encoded bytes
-- ---------------------------------------------------------------------------

/-- The text is one of the ways to encode the bytes: each byte as an escape, or as it is if it is no
equals sign, with soft line breaks anywhere between them. -/
def Encodes (bytes text : List UInt8) : Prop :=
  ∃ pieces : List Piece, (∀ p ∈ pieces, p.Standard) ∧
    pieces.flatMap Piece.written = text ∧ pieces.flatMap Piece.meant = bytes

theorem decode_encoded {bytes text : List UInt8} (h : Encodes bytes text) :
    decode text = .ok bytes := by
  obtain ⟨pieces, -, rfl, rfl⟩ := h
  have hread := decode_flatMap_written pieces []
  rw [List.append_nil] at hread
  rw [hread]
  exact congrArg Except.ok (List.append_nil _)

/-- Lower and upper case digits, a line break that is escaped and others that are soft. -/
theorem decode_encoded_broken :
    Encodes (Text.bytes "a=\n3") (Text.bytes "=\r\na=3d=0A=\n3=\n") ∧
      decode (Text.bytes "=\r\na=3d=0A=\n3=\n") = .ok (Text.bytes "a=\n3") := by
  have h : Encodes (Text.bytes "a=\n3") (Text.bytes "=\r\na=3d=0A=\n3=\n") := by
    refine ⟨[.crlf, .literal 0x61 (by decide), .escape ⟨0x33, 3, by decide⟩ ⟨0x64, 13, by decide⟩,
      .escape ⟨0x30, 0, by decide⟩ ⟨0x41, 10, by decide⟩, .lf, .literal 0x33 (by decide), .lf],
      ?_, rfl, rfl⟩
    simp [Piece.Standard]
  exact ⟨h, decode_encoded h⟩

-- ---------------------------------------------------------------------------
-- Scans
-- ---------------------------------------------------------------------------

/-- The text is scanned into pieces of some kinds, up to a rest that begins with none of them. -/
structure Scans (Kind : Piece → Prop) (text : List UInt8) (pieces : List Piece)
    (rest : List UInt8) : Prop where
  kind : ∀ p ∈ pieces, Kind p
  text_eq : text = pieces.flatMap Piece.written ++ rest
  stops : ∀ p, Kind p → ¬ p.written <+: rest

def outcome (pieces : List Piece) (rest : List UInt8) : Option (List UInt8) :=
  if rest = [] then some (pieces.flatMap Piece.meant) else none

theorem Digit.eq_of_byte {d e : Digit} (h : d.byte = e.byte) : d = e := by
  have hd := d.digit?_byte
  rw [h, e.digit?_byte] at hd
  obtain ⟨byte, value, _⟩ := d
  obtain ⟨byte', value', _⟩ := e
  obtain rfl : byte = byte' := h
  obtain rfl : value' = value := Option.some.inj hd
  rfl

theorem Piece.eq_of_append {p q : Piece} {a b : List UInt8} (h : p.written ++ a = q.written ++ b) :
    p = q ∧ a = b := by
  have hplain (d : Digit) := d.plain
  have hsame (d e : Digit) (h : d.byte = e.byte) : d = e := Digit.eq_of_byte h
  -- the first bytes tell the kinds apart, and an escape fixes its digits
  cases p <;> cases q <;>
    simp only [written, List.cons_append, List.nil_append, List.cons.injEq] at h <;> grind

theorem Piece.eq_of_prefix {p q : Piece} {text : List UInt8} (hp : p.written <+: text)
    (hq : q.written <+: text) : p = q := by
  obtain ⟨a, rfl⟩ := hp
  obtain ⟨b, hb⟩ := hq
  exact (eq_of_append hb).1.symm

theorem exists_scans (Kind : Piece → Prop) (text : List UInt8) :
    ∃ pieces rest, Scans Kind text pieces rest := by
  by_cases h : ∃ p, Kind p ∧ p.written <+: text
  · obtain ⟨p, hp, rest, rfl⟩ := h
    obtain ⟨pieces, stop, hscan⟩ := exists_scans Kind rest
    refine ⟨p :: pieces, stop, ⟨List.forall_mem_cons.mpr ⟨hp, hscan.kind⟩, ?_, hscan.stops⟩⟩
    rw [List.flatMap_cons, List.append_assoc, ← hscan.text_eq]
  · exact ⟨[], text, ⟨by simp, rfl, fun p hp hprefix => h ⟨p, hp, hprefix⟩⟩⟩
termination_by text.length
decreasing_by
  have hpos := List.length_pos_iff.mpr p.written_ne_nil
  subst_vars
  simp only [List.length_append]
  omega

theorem Scans.unique {Kind : Piece → Prop} {text : List UInt8} {pieces pieces' : List Piece}
    {rest rest' : List UInt8} (h : Scans Kind text pieces rest)
    (h' : Scans Kind text pieces' rest') : pieces = pieces' ∧ rest = rest' := by
  obtain ⟨hkind, rfl, hstops⟩ := h
  obtain ⟨hkind', htext, hstops'⟩ := h'
  induction pieces generalizing pieces' with
  | nil =>
    cases pieces' with
    | nil => exact ⟨rfl, htext⟩
    | cons q pieces' =>
      rw [List.flatMap_cons, List.append_assoc] at htext
      exact absurd ⟨_, htext.symm⟩ (hstops q (hkind' q List.mem_cons_self))
  | cons p pieces ih =>
    rw [List.flatMap_cons, List.append_assoc] at htext
    cases pieces' with
    | nil => exact absurd ⟨_, htext⟩ (hstops' p (hkind p List.mem_cons_self))
    | cons q pieces' =>
      rw [List.flatMap_cons, List.append_assoc] at htext
      obtain ⟨rfl, hlater⟩ := Piece.eq_of_append htext
      obtain ⟨rfl, hrest⟩ := ih (List.forall_mem_cons.mp hkind).2
        (List.forall_mem_cons.mp hkind').2 hlater
      exact ⟨rfl, hrest⟩

theorem Scans.of_whole {Kind Kind' : Piece → Prop} {text : List UInt8} {pieces : List Piece}
    (h : Scans Kind text pieces []) (hkind : ∀ p ∈ pieces, Kind' p) : Scans Kind' text pieces [] :=
  ⟨hkind, h.text_eq, fun p _ hp => p.written_ne_nil (List.prefix_nil.mp hp)⟩

theorem exists_piece_of_escaped {a b byte : UInt8} (h : escaped a b = .ok byte) :
    ∃ p : Piece, p.written = [0x3d, a, b] := by
  unfold escaped at h
  split at h
  · cases h
  · split at h
    · cases h
    · next low hlow =>
      obtain ⟨d, rfl, -⟩ := exists_digit hlow
      split at h
      · next hplus => exact ⟨.signed d, by rw [hplus]; rfl⟩
      · split at h
        · cases h
        · next high hhigh =>
          obtain ⟨e, rfl, -⟩ := exists_digit hhigh
          exact ⟨.escape e d, rfl⟩

theorem decode_of_stops {rest : List UInt8} (hstops : ∀ p : Piece, ¬ p.written <+: rest)
    (hne : rest ≠ []) : (decode rest).toOption = none := by
  match rest with
  | [] => exact absurd rfl hne
  | b :: rest =>
    obtain rfl : b = 0x3d :=
      Decidable.byContradiction fun h => hstops (.literal b h) ⟨rest, rfl⟩
    have hlf (later : List UInt8) : rest ≠ 0x0a :: later := by
      rintro rfl
      exact hstops .lf ⟨later, rfl⟩
    match rest with
    | [] => rfl
    | [a] =>
      have ha : a ≠ 0x0a := fun h => hlf [] (by rw [h])
      simp [decode, ha, Except.toOption]
    | a :: c :: later =>
      have ha : a ≠ 0x0a := fun h => hlf (c :: later) (by rw [h])
      have hcrlf : ¬ (a = 0x0d ∧ c = 0x0a) := by
        rintro ⟨rfl, rfl⟩
        exact hstops .crlf ⟨later, rfl⟩
      rw [decode, if_pos rfl, if_neg hcrlf, if_neg ha]
      cases hescaped : escaped a c with
      | error fault => rfl
      | ok byte =>
        obtain ⟨p, hp⟩ := exists_piece_of_escaped hescaped
        exact absurd ⟨later, by rw [hp]; rfl⟩ (hstops p)

def AnyKind (_ : Piece) : Prop := True

theorem Scans.decode {text : List UInt8} {pieces : List Piece} {rest : List UInt8}
    (h : Scans AnyKind text pieces rest) : (decode text).toOption = outcome pieces rest := by
  rw [h.text_eq, decode_flatMap_written, outcome]
  split
  · next hrest => simp [hrest, QuotedPrintable.decode, Except.map, Except.toOption]
  · next hrest =>
    have hnone := decode_of_stops (fun p => h.stops p trivial) hrest
    cases hdecode : QuotedPrintable.decode rest with
    | error => rfl
    | ok bytes => rw [hdecode] at hnone; cases hnone

theorem exists_pieces_of_decode {text bytes : List UInt8} (h : decode text = .ok bytes) :
    ∃ pieces : List Piece, pieces.flatMap Piece.written = text ∧
      pieces.flatMap Piece.meant = bytes := by
  obtain ⟨pieces, rest, hscan⟩ := exists_scans AnyKind text
  have hread := hscan.decode
  rw [h, outcome] at hread
  split at hread
  · next hrest =>
    refine ⟨pieces, ?_, (Option.some.inj hread).symm⟩
    rw [hscan.text_eq, hrest, List.append_nil]
  · cases hread

/-- Every text is scanned, and read exactly if nothing is left over. A scan for the pieces of the
standard comes to the same unless the whole text is read and a signed escape is in it. -/
theorem decode_scanned (text : List UInt8) :
    ∃ pieces rest standard stop, Scans AnyKind text pieces rest ∧
      Scans Piece.Standard text standard stop ∧ (decode text).toOption = outcome pieces rest ∧
      ((decode text).toOption = outcome standard stop ↔
        (rest = [] → ∀ p ∈ pieces, p.Standard)) := by
  obtain ⟨pieces, rest, hscan⟩ := exists_scans AnyKind text
  obtain ⟨standard, stop, hstandard⟩ := exists_scans Piece.Standard text
  refine ⟨pieces, rest, standard, stop, hscan, hstandard, hscan.decode, ?_⟩
  rw [hscan.decode]
  have hwhole : stop = [] → pieces = standard ∧ rest = [] := by
    rintro rfl
    exact hscan.unique (hstandard.of_whole fun _ _ => trivial)
  constructor
  · rintro hsame rfl
    have hstop : stop = [] := by
      by_cases h : stop = []
      · exact h
      · simp [outcome, h] at hsame
    rw [(hwhole hstop).1]
    exact hstandard.kind
  · intro hall
    by_cases hrest : rest = []
    · subst hrest
      obtain ⟨rfl, rfl⟩ := hstandard.unique (hscan.of_whole (hall rfl))
      rfl
    · have hstop : stop ≠ [] := fun h => hrest (hwhole h).2
      rw [outcome, outcome, if_neg hrest, if_neg hstop]

/-- An escape with a plus sign is read as a byte, and stops the scan for pieces of the standard. -/
theorem decode_plus :
    decode (Text.bytes "=+5") = .ok [5] ∧
      Scans Piece.Standard (Text.bytes "=+5") [] (Text.bytes "=+5") := by
  refine ⟨rfl, by simp, rfl, fun p hp hprefix => ?_⟩
  have hsigned : (Piece.signed ⟨0x35, 5, by decide⟩).written <+: Text.bytes "=+5" := by decide
  rw [Piece.eq_of_prefix hprefix hsigned] at hp
  exact hp

-- ---------------------------------------------------------------------------
-- How much ASCII is read
-- ---------------------------------------------------------------------------

theorem Piece.plainBytes_meant_le (p : Piece) :
    Text.Utf8.plainBytes p.meant ≤ Text.Utf8.plainBytes p.written := by
  have hone (bs : List UInt8) : 1 ≤ Text.Utf8.plainBytes (0x3d :: bs) :=
    List.countP_pos_iff.mpr ⟨0x3d, List.mem_cons_self, rfl⟩
  cases p with
  | literal b h => exact Nat.le_refl _
  | crlf => exact Nat.zero_le _
  | lf => exact Nat.zero_le _
  | escape high low => exact Nat.le_trans (Text.Utf8.plainBytes_le_length _) (hone _)
  | signed low => exact Nat.le_trans (Text.Utf8.plainBytes_le_length _) (hone _)

theorem plainBytes_le_of_decode {text bytes : List UInt8} (h : decode text = .ok bytes) :
    Text.Utf8.plainBytes bytes ≤ Text.Utf8.plainBytes text := by
  obtain ⟨pieces, rfl, rfl⟩ := exists_pieces_of_decode h
  clear h
  induction pieces with
  | nil => exact Nat.le_refl _
  | cons p pieces ih =>
    simp only [List.flatMap_cons, Text.Utf8.plainBytes_append]
    exact Nat.add_le_add p.plainBytes_meant_le ih

end Mailroom.Codec.QuotedPrintable
