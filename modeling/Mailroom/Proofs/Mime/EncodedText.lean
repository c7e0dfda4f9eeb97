import Mailroom.Proofs.Codec.Canonical
import Mailroom.Proofs.Mime.EncodedWord
import Mailroom.Proofs.Mime.Extended

/-!
# Encoded words are read back

A text in Unicode may be written as a word in base64 or in quoted-printable, in many ways, and
plain texts may stand between words. `decode_pieces` says that such pieces are read as what they
stand for. White space alone between two words stands for nothing.
-/

namespace Mailroom.Mime.EncodedWord

open Parameters (digit?_ofNat encode_cons_ascii toNat_lt_of_value?)

-- ---------------------------------------------------------------------------
-- Payloads
-- ---------------------------------------------------------------------------

/-- How bytes may be escaped: each of them as an equals sign and two digits in either case. -/
inductive Escapes : List UInt8 → List Char → Prop
  | nil : Escapes [] []
  | cons {high low : Char} {m n : Nat} {bs : List UInt8} {cs : List Char}
      (hm : Codec.Hex.value? high = some m) (hn : Codec.Hex.value? low = some n)
      (h : Escapes bs cs) : Escapes (UInt8.ofNat (16 * m + n) :: bs) ('=' :: high :: low :: cs)

/-- How a text may be written in quoted-printable: an underscore for a space, the bytes of any
character escaped, and characters without a meaning of their own as they are. -/
inductive Quotes : List Char → List Char → Prop
  | nil : Quotes [] []
  | space {text payload : List Char} (h : Quotes text payload) :
      Quotes (' ' :: text) ('_' :: payload)
  | literal {c : Char} {text payload : List Char} (hc : c ∉ [' ', '_', '=', '?'])
      (h : Quotes text payload) : Quotes (c :: text) (c :: payload)
  | escaped {c : Char} {text escape payload : List Char}
      (hc : Escapes (Text.Utf8.encodeChar c) escape) (h : Quotes text payload) :
      Quotes (c :: text) (escape ++ payload)

theorem not_mark_of_value? {c : Char} {n : Nat} (h : Codec.Hex.value? c = some n) :
    c ≠ '?' ∧ c ≠ '_' := by
  constructor
  · rintro rfl
    exact nomatch h
  · rintro rfl
    exact nomatch h

theorem Escapes.not_mem {bs : List UInt8} {cs : List Char} (h : Escapes bs cs) :
    '?' ∉ cs ∧ '_' ∉ cs := by
  induction h with
  | nil => simp
  | cons hm hn _ ih =>
    obtain ⟨hquestion, hunderscore⟩ := not_mark_of_value? hm
    obtain ⟨hquestion', hunderscore'⟩ := not_mark_of_value? hn
    simp [hquestion.symm, hquestion'.symm, hunderscore.symm, hunderscore'.symm, ih]

theorem Quotes.not_mem {text payload : List Char} (h : Quotes text payload) : '?' ∉ payload := by
  induction h with
  | nil => simp
  | space _ ih => simp [ih]
  | literal hc _ ih =>
    simp only [List.mem_cons, not_or] at hc
    simp [Ne.symm hc.2.2.2.1, ih]
  | escaped hc _ ih => simp [hc.not_mem.1, ih]

theorem exists_byte_of_value? {c : Char} {n : Nat} (h : Codec.Hex.value? c = some n) :
    ∃ d : Codec.QuotedPrintable.Digit, d.byte = UInt8.ofNat c.toNat ∧ d.value = n :=
  Codec.QuotedPrintable.exists_digit ((digit?_ofNat (toNat_lt_of_value? h)).trans h)

theorem Escapes.decode {bs : List UInt8} {cs : List Char} (h : Escapes bs cs) (rest : List UInt8) :
    Codec.QuotedPrintable.decode (Text.Utf8.encode cs ++ rest) =
      (Codec.QuotedPrintable.decode rest).map (bs ++ ·) := by
  induction h with
  | nil => exact (Codec.QuotedPrintable.map_nil_append _).symm
  | @cons high low m n bs cs hm hn _ ih =>
    obtain ⟨d, hd, rfl⟩ := exists_byte_of_value? hm
    obtain ⟨e, he, rfl⟩ := exists_byte_of_value? hn
    have hread := Codec.QuotedPrintable.decode_written (.escape d e) (Text.Utf8.encode cs ++ rest)
    rw [ih] at hread
    rw [encode_cons_ascii (by decide), encode_cons_ascii (toNat_lt_of_value? hm),
      encode_cons_ascii (toNat_lt_of_value? hn), ← hd, ← he]
    refine hread.trans ?_
    cases Codec.QuotedPrintable.decode rest with
    | error => rfl
    | ok => rfl

theorem decode_append_of_not_mem {bs : List UInt8} (h : 0x3d ∉ bs) (rest : List UInt8) :
    Codec.QuotedPrintable.decode (bs ++ rest) =
      (Codec.QuotedPrintable.decode rest).map (bs ++ ·) := by
  induction bs with
  | nil => exact (Codec.QuotedPrintable.map_nil_append _).symm
  | cons b bs ih =>
    simp only [List.mem_cons, not_or] at h
    rw [List.cons_append, Codec.QuotedPrintable.decode_cons (Ne.symm h.1), ih h.2]
    cases Codec.QuotedPrintable.decode rest with
    | error => rfl
    | ok => rfl

theorem decode_encodeChar {c : Char} (h : c ≠ '=') (rest : List UInt8) :
    Codec.QuotedPrintable.decode (Text.Utf8.encodeChar c ++ rest) =
      (Codec.QuotedPrintable.decode rest).map (Text.Utf8.encodeChar c ++ ·) := by
  refine decode_append_of_not_mem (fun hm => h ?_) rest
  have hcode : c.toNat = 0x3d := Text.Utf8.toNat_eq_of_mem_encodeChar hm (by decide)
  rw [← Char.ofNat_toNat c, hcode]

theorem Quotes.decode {text payload : List Char} (h : Quotes text payload) :
    Codec.QuotedPrintable.decode (Text.Utf8.encode (spaced payload)) =
      .ok (Text.Utf8.encode text) := by
  induction h with
  | nil => rfl
  | @space text payload _ ih =>
    show Codec.QuotedPrintable.decode (Text.Utf8.encodeChar ' ' ++ Text.Utf8.encode (spaced payload)) = _
    rw [decode_encodeChar (by decide), ih]
    rfl
  | @literal c text payload hc _ ih =>
    simp only [List.mem_cons, not_or] at hc
    have hsame : spaced (c :: payload) = c :: spaced payload := by simp [spaced, hc.2.1]
    rw [hsame]
    show Codec.QuotedPrintable.decode (Text.Utf8.encodeChar c ++ Text.Utf8.encode (spaced payload)) = _
    rw [decode_encodeChar hc.2.2.1, ih]
    rfl
  | @escaped c text escape payload hc _ ih =>
    have hsplit : spaced (escape ++ payload) = escape ++ spaced payload := by
      rw [spaced, List.map_append, ← spaced, ← spaced, spaced_of_not_mem hc.not_mem.2]
    rw [hsplit, Text.Utf8.encode_append, hc.decode, ih]
    rfl

-- ---------------------------------------------------------------------------
-- Words
-- ---------------------------------------------------------------------------

/-- UTF-8 in any case, maybe with a language behind an asterisk. -/
def IsUtf8 (charset : List Char) : Prop :=
  ∃ label language, charset = label ++ language ∧ label.map Char.toLower = "utf-8".toList ∧
    (language = [] ∨ ∃ tag, language = '*' :: tag ∧ '?' ∉ tag)

/-- How a text may be written as a word: its bytes in canonical base64, or the text in
quoted-printable. -/
inductive WritesWord (text : List Char) : List Char → Prop
  | base64 {charset coding payload : List Char} (hcharset : IsUtf8 charset)
      (hcoding : coding = ['B'] ∨ coding = ['b'])
      (h : Codec.Base64.Canonical (Text.Utf8.encode text) (Text.Utf8.encode payload)) :
      WritesWord text (write charset coding payload)
  | quotedPrintable {charset coding payload : List Char} (hcharset : IsUtf8 charset)
      (hcoding : coding = ['Q'] ∨ coding = ['q']) (h : Quotes text payload) :
      WritesWord text (write charset coding payload)

theorem not_mem_of_map_toLower {label lowered : List Char} {c : Char}
    (h : label.map Char.toLower = lowered) (hc : c.toLower ∉ lowered) : c ∉ label := by
  intro hm
  exact hc (h ▸ List.mem_map_of_mem hm)

theorem IsUtf8.not_mem {charset : List Char} (h : IsUtf8 charset) : '?' ∉ charset := by
  obtain ⟨label, language, rfl, hlabel, hlanguage⟩ := h
  have hmark : '?' ∉ label := not_mem_of_map_toLower hlabel (by decide)
  rcases hlanguage with rfl | ⟨tag, rfl, htag⟩
  · simp [hmark]
  · simp [hmark, htag]

theorem IsUtf8.name {charset : List Char} (h : IsUtf8 charset) :
    (Charset.name charset).map Char.toLower = "utf-8".toList := by
  obtain ⟨label, language, rfl, hlabel, hlanguage⟩ := h
  have hstar : '*' ∉ label := not_mem_of_map_toLower hlabel (by decide)
  have hname : Charset.name (label ++ language) = label := by
    have hall : ∀ c ∈ label, (c != '*') = true := by
      intro c hc
      exact bne_iff_ne.mpr fun he => hstar (he ▸ hc)
    rw [Charset.name, List.takeWhile_append_of_pos hall]
    rcases hlanguage with rfl | ⟨tag, rfl, -⟩
    · simp
    · simp
  rw [hname, hlabel]

theorem IsUtf8.decode {charset : List Char} (h : IsUtf8 charset) (text : List Char) :
    Charset.decode charset (Text.Utf8.encode text) = .ok text := by
  simp [Charset.decode, h.name, Text.Utf8.decode_encode, Except.mapError]

theorem canonical_plain {bytes : List UInt8} {payload : List Char}
    (h : Codec.Base64.Canonical bytes (Text.Utf8.encode payload)) :
    Codec.Base64.decode (Text.Utf8.encode payload) = .ok bytes ∧ '?' ∉ payload := by
  rw [Codec.Base64.canonical_iff] at h
  have hsymbol : ∀ b ∈ Text.Utf8.encode payload, Codec.Base64.isSymbol b = true := by
    intro b hb
    exact Codec.Base64.isSymbol_of_mem_encode (h ▸ hb)
  constructor
  · rw [Codec.Base64.decode_eq_ok_iff, ← h, List.filter_eq_self]
    intro b hb
    simp [Codec.Base64.not_isBlankByte_of_isSymbol (hsymbol b hb)]
  · intro hm
    have hbyte : 0x3f ∈ Text.Utf8.encode payload :=
      List.mem_flatMap.mpr ⟨'?', hm, List.mem_cons_self⟩
    exact absurd (hsymbol 0x3f hbyte) (by decide)

theorem WritesWord.cases {text written : List Char} (h : WritesWord text written) :
    ∃ charset coding payload, written = write charset coding payload ∧
      '?' ∉ charset ∧ '?' ∉ coding ∧ '?' ∉ payload ∧
      ∀ rest, Word.decode ⟨charset, coding, payload, rest⟩ = .ok text := by
  cases h with
  | @base64 charset coding payload hcharset hcoding h =>
    obtain ⟨hread, hpayload⟩ := canonical_plain h
    refine ⟨charset, coding, payload, rfl, hcharset.not_mem, ?_, hpayload, fun rest => ?_⟩
    · rcases hcoding with rfl | rfl <;> decide
    · exact Word.decode_eq_ok_iff.mpr ⟨_, .inl ⟨hcoding, hread⟩, hcharset.decode text⟩
  | @quotedPrintable charset coding payload hcharset hcoding h =>
    refine ⟨charset, coding, payload, rfl, hcharset.not_mem, ?_, h.not_mem, fun rest => ?_⟩
    · rcases hcoding with rfl | rfl <;> decide
    · exact Word.decode_eq_ok_iff.mpr ⟨_, .inr ⟨hcoding, h.decode⟩, hcharset.decode text⟩

theorem WritesWord.decodes {afterWord : Bool} {before text written rest later : List Char}
    (h : WritesWord text written) (hbefore : ¬ ['=', '?'] <:+: before)
    (hrest : Decodes true rest later) :
    Decodes afterWord (before ++ (written ++ rest)) (kept afterWord before ++ text ++ later) := by
  obtain ⟨charset, coding, payload, rfl, hname, hcoding, hpayload, hread⟩ := h.cases
  exact .of_write hbefore hname hcoding hpayload (hread rest) hrest

-- ---------------------------------------------------------------------------
-- Words among plain text
-- ---------------------------------------------------------------------------

inductive Piece
  | plain (text : List Char)
  | word (text written : List Char)

namespace Piece

def written : Piece → List Char
  | plain text => text
  | word _ written => written

/-- Plain text has nothing in it that opens a word. -/
def Sound : Piece → Prop
  | plain text => ¬ ['=', '?'] <:+: text
  | word text written => WritesWord text written

def isWord : Piece → Bool
  | plain _ => false
  | word _ _ => true

end Piece

def beginsWithWord : List Piece → Bool
  | [] => false
  | piece :: _ => piece.isWord

/-- What pieces stand for, where `afterWord` says that a word stands right before them. White space
that is all there is between two words stands for nothing. -/
def meant (afterWord : Bool) : List Piece → List Char
  | [] => []
  | .word text _ :: rest => text ++ meant true rest
  | .plain text :: rest =>
    (if afterWord && beginsWithWord rest && text.all Text.isBlank then [] else text) ++
      meant false rest

theorem kept_eq (afterWord : Bool) (before : List Char) :
    kept afterWord before = if afterWord && before.all Text.isBlank then [] else before := by
  have hblank : (Text.trim before).isEmpty = before.all Text.isBlank := by
    rw [Bool.eq_iff_iff, List.isEmpty_iff, Text.trim_eq_nil_iff, List.all_eq_true]
  rw [kept, hblank]

-- Two steps at a time: a plain text and the word behind it are decoded together.
theorem decodes_pieces {pieces : List Piece} (h : ∀ p ∈ pieces, p.Sound)
    (hapart : pieces.IsChain fun p q => p.isWord ∨ q.isWord) (afterWord : Bool) :
    Decodes afterWord (pieces.flatMap Piece.written) (meant afterWord pieces) := by
  match pieces with
  | [] => exact .plain (not_hasWord_of_free (by decide))
  | [.plain text] =>
    have htext : ¬ ['=', '?'] <:+: text := h _ List.mem_cons_self
    have hdecodes : Decodes afterWord text text := .plain (not_hasWord_of_free htext)
    simpa [Piece.written, meant, beginsWithWord] using hdecodes
  | .word text written :: rest =>
    obtain ⟨hword, hrest⟩ := List.forall_mem_cons.mp h
    have hword : WritesWord text written := hword
    have hdecodes : Decodes afterWord ([] ++ _) _ :=
      hword.decodes (by decide) (decodes_pieces hrest hapart.of_cons true)
    simpa [Piece.written, meant, kept] using hdecodes
  | .plain text :: .word inner written :: rest =>
    simp only [List.forall_mem_cons] at h
    obtain ⟨htext, hword, hrest⟩ := h
    have hword : WritesWord inner written := hword
    have hdecodes : Decodes afterWord _ _ :=
      hword.decodes htext (decodes_pieces hrest hapart.of_cons.of_cons true)
    simpa [Piece.written, meant, beginsWithWord, Piece.isWord, kept_eq] using hdecodes
  | .plain _ :: .plain _ :: _ =>
    simp [Piece.isWord] at hapart

/-- Encoded words are read as the texts that were written, and plain texts between them as they
are. -/
theorem decode_pieces {pieces : List Piece} (h : ∀ p ∈ pieces, p.Sound)
    (hapart : pieces.IsChain fun p q => p.isWord ∨ q.isWord) :
    decode (String.ofList (pieces.flatMap Piece.written)) =
      .ok (String.ofList (meant false pieces)) := by
  have hdecodes := decodes_pieces h hapart false
  rw [decode, String.toList_ofList, hdecodes.decodeFrom]
  rfl

namespace Mixed

/-- Both codings, a language, an empty word, and plain texts that begin or end with marks. -/
def pieces : List Piece :=
  [.plain "1=".toList, .word "é?".toList "=?UTF-8*fr?b?w6k/?=".toList, .plain " \t".toList,
    .word "_ é=".toList "=?utf-8?Q?=5f_=C3=a9=3D?=".toList, .word [] "=?utf-8?q??=".toList,
    .plain "? ".toList]

theorem isUtf8 : IsUtf8 "utf-8".toList :=
  ⟨"utf-8".toList, [], rfl, by decide, .inl rfl⟩

theorem isUtf8_language : IsUtf8 "UTF-8*fr".toList :=
  ⟨"UTF-8".toList, "*fr".toList, rfl, by decide, .inr ⟨"fr".toList, rfl, by decide⟩⟩

theorem quotes : Quotes "_ é=".toList "=5f_=C3=a9=3D".toList := by
  have hline : Escapes (Text.Utf8.encodeChar '_') "=5f".toList :=
    @Escapes.cons '5' 'f' 5 15 [] [] rfl rfl .nil
  have hletter : Escapes (Text.Utf8.encodeChar 'é') "=C3=a9".toList :=
    @Escapes.cons 'C' '3' 12 3 _ _ rfl rfl (@Escapes.cons 'a' '9' 10 9 [] [] rfl rfl .nil)
  have hequals : Escapes (Text.Utf8.encodeChar '=') "=3D".toList :=
    @Escapes.cons '3' 'D' 3 13 [] [] rfl rfl .nil
  exact .escaped hline (.space (.escaped hletter (.escaped hequals .nil)))

theorem sound : ∀ p ∈ pieces, p.Sound := by
  have hfirst : WritesWord "é?".toList "=?UTF-8*fr?b?w6k/?=".toList :=
    @WritesWord.base64 _ _ _ "w6k/".toList isUtf8_language (.inr rfl)
      (Codec.Base64.canonical_iff.mpr (by decide +kernel))
  have hsecond : WritesWord "_ é=".toList "=?utf-8?Q?=5f_=C3=a9=3D?=".toList :=
    .quotedPrintable isUtf8 (.inl rfl) quotes
  have hthird : WritesWord [] "=?utf-8?q??=".toList := .quotedPrintable isUtf8 (.inr rfl) .nil
  have hplain : ∀ text ∈ ["1=".toList, " \t".toList, "? ".toList], ¬ ['=', '?'] <:+: text := by
    decide
  simp only [pieces, List.forall_mem_cons, List.not_mem_nil, false_imp_iff, implies_true, and_true]
    at hplain ⊢
  exact ⟨hplain.1, hfirst, hplain.2.1, hsecond, hthird, hplain.2.2⟩

end Mixed

theorem decode_pieces_mixed :
    (∀ p ∈ Mixed.pieces, p.Sound) ∧ (Mixed.pieces.IsChain fun p q => p.isWord ∨ q.isWord) ∧
      decode "1==?UTF-8*fr?b?w6k/?= \t=?utf-8?Q?=5f_=C3=a9=3D?==?utf-8?q??=? " =
        .ok "1=é?_ é=? " := by
  have hapart : Mixed.pieces.IsChain fun p q => p.isWord ∨ q.isWord := by
    simp [Mixed.pieces, Piece.isWord]
  have hwritten : String.ofList (Mixed.pieces.flatMap Piece.written) =
      "1==?UTF-8*fr?b?w6k/?= \t=?utf-8?Q?=5f_=C3=a9=3D?==?utf-8?q??=? " := by decide +kernel
  have hmeant : String.ofList (meant false Mixed.pieces) = "1=é?_ é=? " := by decide +kernel
  have hread := decode_pieces Mixed.sound hapart
  rw [hwritten, hmeant] at hread
  exact ⟨Mixed.sound, hapart, hread⟩

end Mailroom.Mime.EncodedWord
