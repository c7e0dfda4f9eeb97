import Mailroom.Mime.EncodedWord
import Mailroom.Proofs.Codec.Base64
import Mailroom.Proofs.Codec.QuotedPrintable
import Mailroom.Proofs.Text.Blank
import Mailroom.Proofs.Text.Cut

/-!
# What decoding makes of a text

A text in which nothing looks like an encoded word is kept. Where words are decoded the text
becomes another one, with fewer ASCII characters (`decodeOrKeep_eq_self_iff`), and an empty one
exactly if it was made of words that hold nothing (`decode_eq_empty_iff`).
-/

namespace Mailroom.Mime.EncodedWord

open Text.Utf8 (plainChars plainBytes plainChars_append)

-- ---------------------------------------------------------------------------
-- Words in a text
-- ---------------------------------------------------------------------------

def write (charset coding payload : List Char) : List Char :=
  '=' :: '?' :: (charset ++ '?' :: (coding ++ '?' :: (payload ++ ['?', '='])))

def HasWord (text : List Char) : Prop :=
  ∃ charset coding payload, write charset coding payload <:+: text

theorem eq_of_split {text : List Char} {word : Word} (h : split text = some word) :
    '=' :: '?' :: text = write word.charset word.coding word.payload ++ word.rest := by
  simp only [split, Option.bind_eq_bind, Option.bind_eq_some_iff, Prod.exists] at h
  obtain ⟨_, _, h1, _, _, h2, _, _, h3, h⟩ := h
  cases h
  simp [write, Text.eq_of_cut h1, Text.eq_of_cut h2, Text.eq_of_cut h3]

theorem exists_split (charset coding payload rest : List Char) : ∃ word,
    split (charset ++ '?' :: (coding ++ '?' :: (payload ++ '?' :: '=' :: rest))) = some word := by
  -- a cut may be made before its mark, and what stands between them falls to the next field
  obtain ⟨_, _, h1, a, rfl⟩ := Text.exists_cut_of_append ['?'] charset
    (coding ++ '?' :: (payload ++ '?' :: '=' :: rest))
  obtain ⟨_, _, h2, b, rfl⟩ := Text.exists_cut_of_append ['?'] (a ++ coding)
    (payload ++ '?' :: '=' :: rest)
  obtain ⟨_, _, h3, -⟩ := Text.exists_cut_of_append ['?', '='] (b ++ payload) rest
  simp only [List.append_assoc, List.cons_append, List.nil_append] at h1 h2 h3
  exact ⟨_, by simp only [split, h1, h2, h3, Option.bind_eq_bind, Option.bind_some]; rfl⟩

theorem hasWord_iff {text : List Char} : HasWord text ↔ ∃ before fields word,
    Text.cut ['=', '?'] text = some (before, fields) ∧ split fields = some word := by
  constructor
  · rintro ⟨charset, coding, payload, before, rest, rfl⟩
    obtain ⟨front, _, hcut, more, rfl⟩ := Text.exists_cut_of_append ['=', '?'] before
      (charset ++ '?' :: (coding ++ '?' :: (payload ++ '?' :: '=' :: rest)))
    obtain ⟨word, hsplit⟩ := exists_split (more ++ charset) coding payload rest
    refine ⟨front, _, word, ?_, hsplit⟩
    simpa [write] using hcut
  · rintro ⟨before, fields, word, hcut, hsplit⟩
    refine ⟨word.charset, word.coding, word.payload, before, word.rest, ?_⟩
    rw [List.append_assoc, ← eq_of_split hsplit, Text.eq_of_cut hcut]
    simp

theorem decodeFrom_of_not_hasWord {text : List Char} (h : ¬ HasWord text) (afterWord : Bool) :
    decodeFrom afterWord text = .ok text := by
  rw [decodeFrom]
  split
  · rfl
  · next before fields hcut =>
    split
    · rfl
    · next word hsplit => exact absurd (hasWord_iff.mpr ⟨before, fields, word, hcut, hsplit⟩) h

def kept (afterWord : Bool) (before : List Char) : List Char :=
  if afterWord && (Text.trim before).isEmpty then [] else before

inductive Decodes : Bool → List Char → List Char → Prop
  | plain {afterWord : Bool} {text : List Char} (h : ¬ HasWord text) : Decodes afterWord text text
  | word {afterWord : Bool} {text before fields here later : List Char} {word : Word}
      (opening : Text.cut ['=', '?'] text = some (before, fields))
      (found : split fields = some word) (read : word.decode = .ok here)
      (rest : Decodes true word.rest later) :
      Decodes afterWord text (kept afterWord before ++ here ++ later)

theorem decodeFrom_of_split {text before fields : List Char} {word : Word}
    (hcut : Text.cut ['=', '?'] text = some (before, fields)) (hsplit : split fields = some word)
    (afterWord : Bool) : decodeFrom afterWord text = do
      let here ← word.decode
      let later ← decodeFrom true word.rest
      return kept afterWord before ++ here ++ later := by
  rw [decodeFrom]
  split
  · next hnone => rw [hcut] at hnone; cases hnone
  · next before' fields' hcut' =>
    obtain ⟨rfl, rfl⟩ := Prod.mk.inj (Option.some.inj (hcut.symm.trans hcut'))
    split
    · next hnone => rw [hsplit] at hnone; cases hnone
    · next word' hsplit' =>
      obtain rfl := Option.some.inj (hsplit.symm.trans hsplit')
      rfl

theorem Decodes.decodeFrom {afterWord : Bool} {text decoded : List Char}
    (h : Decodes afterWord text decoded) : decodeFrom afterWord text = .ok decoded := by
  induction h with
  | plain h => exact decodeFrom_of_not_hasWord h _
  | word opening found read _ ih =>
    rw [decodeFrom_of_split opening found, read, ih]
    rfl

theorem decodes_of_decodeFrom {afterWord : Bool} {text decoded : List Char}
    (h : decodeFrom afterWord text = .ok decoded) : Decodes afterWord text decoded := by
  by_cases hword : HasWord text
  · obtain ⟨before, fields, word, hcut, hsplit⟩ := hasWord_iff.mp hword
    rw [decodeFrom_of_split hcut hsplit] at h
    simp only [Answer.bind_eq_ok_iff] at h
    obtain ⟨here, hhere, later, hlater, h⟩ := h
    obtain rfl := Except.ok.inj h
    exact .word hcut hsplit hhere (decodes_of_decodeFrom hlater)
  · rw [decodeFrom_of_not_hasWord hword] at h
    exact Except.ok.inj h ▸ .plain hword
termination_by text.length
decreasing_by
  have h1 := Text.length_lt_of_cut (by simp) hcut
  have h2 := split_rest_lt hsplit
  omega

theorem eq_of_cut_split {text before fields : List Char} {word : Word}
    (hcut : Text.cut ['=', '?'] text = some (before, fields)) (hsplit : split fields = some word) :
    text = before ++ (write word.charset word.coding word.payload ++ word.rest) := by
  rw [← eq_of_split hsplit, Text.eq_of_cut hcut]
  simp

-- ---------------------------------------------------------------------------
-- What a word stands for
-- ---------------------------------------------------------------------------

def spaced (payload : List Char) : List Char := payload.map fun c => if c = '_' then ' ' else c

def Reads (coding payload : List Char) (bytes : List UInt8) : Prop :=
  (coding = ['B'] ∨ coding = ['b']) ∧
    Codec.Base64.decode (Text.Utf8.encode payload) = .ok bytes ∨
  (coding = ['Q'] ∨ coding = ['q']) ∧
    Codec.QuotedPrintable.decode (Text.Utf8.encode (spaced payload)) = .ok bytes

theorem Word.decode_eq_ok_iff {word : Word} {text : List Char} : word.decode = .ok text ↔
    ∃ bytes, Reads word.coding word.payload bytes ∧
      Charset.decode word.charset bytes = .ok text := by
  rw [Word.decode]
  split
  · next hb =>
    have hq : ¬ (word.coding = ['Q'] ∨ word.coding = ['q']) := by
      rcases hb with hb | hb <;> simp [hb]
    simp [Answer.bind_eq_ok_iff, Reads, hb, hq, decodeBase64, Answer.mapError_eq_ok_iff]
  · next hb =>
    split
    · next hq =>
      simp [Answer.bind_eq_ok_iff, Reads, hb, hq, decodeQuotedPrintable,
        Answer.mapError_eq_ok_iff, spaced]
    · next hq => simp [Answer.bind_eq_ok_iff, Reads, hb, hq]

theorem plainChars_spaced (payload : List Char) :
    plainChars (spaced payload) = plainChars payload := by
  refine (List.countP_map ..).trans (List.countP_congr fun c _ => ?_)
  by_cases hc : c = '_'
  · subst hc
    decide
  · simp [hc]

theorem Reads.plainBytes_le {coding payload : List Char} {bytes : List UInt8}
    (h : Reads coding payload bytes) : plainBytes bytes ≤ plainChars payload := by
  rcases h with ⟨-, h⟩ | ⟨-, h⟩
  · simpa using Codec.Base64.plainBytes_le_of_decode h
  · simpa [plainChars_spaced] using Codec.QuotedPrintable.plainBytes_le_of_decode h

theorem plainChars_le_of_charset {declared cs : List Char} {bytes : List UInt8}
    (h : Charset.decode declared bytes = .ok cs) : plainChars cs ≤ plainBytes bytes := by
  unfold Charset.decode at h
  simp only at h
  split at h
  · exact Text.Utf8.plainChars_le_of_decode (Answer.mapError_eq_ok_iff.mp h)
  · split at h
    · obtain rfl := Except.ok.inj h
      rw [plainChars, List.countP_map]
      refine List.countP_mono_left fun b _ hb => ?_
      rcases Text.Utf8.toNat_ofNat_cases b.toNat with hsame | hzero
      · exact hsame ▸ hb
      · rw [Function.comp_apply, hzero] at hb
        cases hb
    · cases h

theorem Word.plainChars_le {word : Word} {text : List Char} (h : word.decode = .ok text) :
    plainChars text ≤ plainChars word.payload := by
  obtain ⟨bytes, hreads, hcharset⟩ := Word.decode_eq_ok_iff.mp h
  exact Nat.le_trans (plainChars_le_of_charset hcharset) hreads.plainBytes_le

-- ---------------------------------------------------------------------------
-- Texts that stay as they are
-- ---------------------------------------------------------------------------

theorem plainChars_kept_le (afterWord : Bool) (before : List Char) :
    plainChars (kept afterWord before) ≤ plainChars before := by
  unfold kept
  split
  · exact Nat.zero_le _
  · exact Nat.le_refl _

theorem plainChars_lt_write (charset coding payload : List Char) :
    plainChars payload < plainChars (write charset coding payload) := by
  have hfour : plainChars ['=', '?'] = 2 := rfl
  have hsplit : write charset coding payload =
      ['=', '?'] ++ (charset ++ ('?' :: (coding ++ ['?'])) ++ (payload ++ ['?', '='])) := by
    simp [write]
  rw [hsplit]
  simp only [plainChars_append, hfour]
  omega

theorem Decodes.plainChars_le {afterWord : Bool} {text decoded : List Char}
    (h : Decodes afterWord text decoded) : plainChars decoded ≤ plainChars text ∧
      (HasWord text → plainChars decoded < plainChars text) := by
  induction h with
  | plain h => exact ⟨Nat.le_refl _, fun hword => absurd hword h⟩
  | @word afterWord text before fields here later word opening found read _ ih =>
    -- the payload gives at least what is read of it, and the marks around it are lost
    have hkept := plainChars_kept_le afterWord before
    have hpayload := Word.plainChars_le read
    have hwritten := plainChars_lt_write word.charset word.coding word.payload
    rw [eq_of_cut_split opening found]
    simp only [plainChars_append]
    omega

theorem decode_eq_self_iff {text : String} : decode text = .ok text ↔ ¬ HasWord text.toList := by
  rw [decode, Answer.map_eq_ok_iff]
  constructor
  · rintro ⟨decoded, hdecoded, rfl⟩ hword
    rw [String.toList_ofList] at hdecoded hword
    exact Nat.lt_irrefl _ ((decodes_of_decodeFrom hdecoded).plainChars_le.2 hword)
  · exact fun h => ⟨text.toList, decodeFrom_of_not_hasWord h false, String.ofList_toList⟩

theorem decodeOrKeep_eq_self_iff {text : String} : decodeOrKeep text = text ↔
    ¬ (HasWord text.toList ∧ (decode text).isOk = true) := by
  have hself : decode text = .ok text ↔ ¬ HasWord text.toList := decode_eq_self_iff
  unfold decodeOrKeep
  cases h : decode text with
  | error => simp [Except.toOption, Except.isOk, Except.toBool]
  | ok decoded =>
    rw [h, Except.ok.injEq] at hself
    simpa [Except.toOption, Except.isOk, Except.toBool] using hself

-- ---------------------------------------------------------------------------
-- Texts that become empty
-- ---------------------------------------------------------------------------

def KnownCharset (declared : List Char) : Prop :=
  (Charset.name declared).map Char.toLower ∈
    ["utf-8".toList, "us-ascii".toList, "iso-8859-1".toList, "latin1".toList]

def IsBreak (b : List Char) : Prop := b = ['=', '\r', '\n'] ∨ b = ['=', '\n']

def blanks : List Char := [' ', '\t', '\n', '\x0c', '\r']

def HoldsNothing (coding payload : List Char) : Prop :=
  (coding = ['B'] ∨ coding = ['b']) ∧ (∀ c ∈ payload, c ∈ blanks) ∨
  (coding = ['Q'] ∨ coding = ['q']) ∧ ∃ breaks : List (List Char),
    (∀ b ∈ breaks, IsBreak b) ∧ payload = breaks.flatten

/-- A text of words that hold nothing. White space may stand between them, and `afterWord` says that
it may stand in front too. -/
inductive Hollow : Bool → List Char → Prop
  | nil {afterWord : Bool} : Hollow afterWord []
  | word {afterWord : Bool} {before charset coding payload rest : List Char}
      (gap : before = [] ∨ afterWord = true ∧ ∀ c ∈ before, Text.isBlank c = true)
      (name : '?' ∉ charset) (known : KnownCharset charset) (nothing : HoldsNothing coding payload)
      (later : Hollow true rest) :
      Hollow afterWord (before ++ (write charset coding payload ++ rest))

theorem charset_eq_nil_iff {declared : List Char} {bytes : List UInt8} :
    Charset.decode declared bytes = .ok [] ↔ KnownCharset declared ∧ bytes = [] := by
  unfold Charset.decode KnownCharset
  simp only [List.mem_cons, List.not_mem_nil, or_false]
  split
  · next hutf8 =>
    rw [Answer.mapError_eq_ok_iff, Text.Utf8.decode_eq_nil_iff]
    grind
  · split
    · next hlatin =>
      rw [Except.ok.injEq, List.map_eq_nil_iff]
      grind
    · next hutf8 hlatin => grind

theorem mem_blanks_iff {c : Char} : c ∈ blanks ↔
    ∀ b ∈ Text.Utf8.encodeChar c, Text.isBlankByte b = true := by
  constructor
  · intro h
    have hall : blanks.all (fun c => (Text.Utf8.encodeChar c).all Text.isBlankByte) = true := by
      decide +kernel
    exact List.all_eq_true.mp (List.all_eq_true.mp hall c h)
  · intro h
    obtain ⟨b, rest, hb⟩ := List.exists_cons_of_ne_nil (Text.Utf8.spells_encodeChar c).ne_nil
    have hmem : b ∈ Text.Utf8.encodeChar c := hb ▸ List.mem_cons_self
    have hblank : b.toNat < 0x80 ∧ Char.ofNat b.toNat ∈ blanks :=
      Text.Utf8.forall_byte (p := fun b => Text.isBlankByte b = true → b.toNat < 0x80 ∧
        Char.ofNat b.toNat ∈ blanks) (by decide +kernel) b (h b hmem)
    rw [← Char.ofNat_toNat c, Text.Utf8.toNat_eq_of_mem_encodeChar hmem hblank.1]
    exact hblank.2

theorem base64_eq_nil_iff {payload : List Char} :
    Codec.Base64.decode (Text.Utf8.encode payload) = .ok [] ↔
      ∀ c ∈ payload, c ∈ blanks := by
  have hfilter : Codec.Base64.decode (Text.Utf8.encode payload) = .ok [] ↔
      ∀ b ∈ Text.Utf8.encode payload, Text.isBlankByte b = true := by
    simp [Codec.Base64.decode_eq_ok_iff, Codec.Base64.encode, List.filter_eq_nil_iff]
  rw [hfilter]
  simp only [mem_blanks_iff, Text.Utf8.encode, List.mem_flatMap]
  constructor
  · exact fun h c hc b hb => h b ⟨c, hc, hb⟩
  · rintro h b ⟨c, hc, hb⟩
    exact h c hc b hb

theorem spaced_of_not_mem {payload : List Char} (h : '_' ∉ payload) : spaced payload = payload := by
  refine (List.map_congr_left fun c hc => ?_).trans (List.map_id payload)
  have hc : c ≠ '_' := fun he => h (he ▸ hc)
  exact if_neg hc

theorem spaced_eq_iff {payload cs : List Char} (h : ∀ c ∈ cs, c ≠ ' ' ∧ c ≠ '_') :
    spaced payload = cs ↔ payload = cs := by
  constructor
  · rintro rfl
    refine (spaced_of_not_mem fun hm => ?_).symm
    exact (h ' ' (List.mem_map.mpr ⟨'_', hm, rfl⟩)).1 rfl
  · rintro rfl
    exact spaced_of_not_mem fun hm => (h '_' hm).2 rfl

theorem IsBreak.ne {b : List Char} {c x : Char} (h : IsBreak b) (hc : c ∈ b)
    (hx : x ∉ ['=', '\r', '\n']) : c ≠ x := by
  have hsub : b ⊆ ['=', '\r', '\n'] := by
    rcases h with rfl | rfl
    · exact List.Subset.refl _
    · decide
  rintro rfl
  exact hx (hsub hc)

theorem exists_piece_of_isBreak {b : List Char} (h : IsBreak b) :
    ∃ p : Codec.QuotedPrintable.Piece, p.written = Text.Utf8.encode b ∧ p.meant = [] := by
  rcases h with rfl | rfl
  · exact ⟨.crlf, rfl, rfl⟩
  · exact ⟨.lf, rfl, rfl⟩

theorem exists_isBreak_of_meant {p : Codec.QuotedPrintable.Piece} (h : p.meant = []) :
    ∃ b, IsBreak b ∧ Text.Utf8.encode b = p.written := by
  cases p with
  | crlf => exact ⟨_, .inl rfl, rfl⟩
  | lf => exact ⟨_, .inr rfl, rfl⟩
  | literal | escape | signed => cases h

theorem exists_breaks_of_meant {pieces : List Codec.QuotedPrintable.Piece}
    (h : pieces.flatMap (·.meant) = []) : ∃ breaks : List (List Char),
      (∀ b ∈ breaks, IsBreak b) ∧ Text.Utf8.encode breaks.flatten = pieces.flatMap (·.written) := by
  induction pieces with
  | nil => exact ⟨[], by simp, rfl⟩
  | cons p pieces ih =>
    obtain ⟨hp, hpieces⟩ := List.append_eq_nil_iff.mp h
    obtain ⟨b, hb, hencode⟩ := exists_isBreak_of_meant hp
    obtain ⟨breaks, hall, hmore⟩ := ih hpieces
    refine ⟨b :: breaks, List.forall_mem_cons.mpr ⟨hb, hall⟩, ?_⟩
    rw [List.flatten_cons, Text.Utf8.encode_append, hencode, hmore, List.flatMap_cons]

theorem quotedPrintable_eq_nil_iff {payload : List Char} :
    Codec.QuotedPrintable.decode (Text.Utf8.encode (spaced payload)) = .ok [] ↔
      ∃ breaks : List (List Char), (∀ b ∈ breaks, IsBreak b) ∧ payload = breaks.flatten := by
  have hplain {breaks : List (List Char)} (h : ∀ b ∈ breaks, IsBreak b) :
      ∀ c ∈ breaks.flatten, c ≠ ' ' ∧ c ≠ '_' := by
    intro c hc
    obtain ⟨b, hb, hcb⟩ := List.mem_flatten.mp hc
    exact ⟨(h b hb).ne hcb (by decide), (h b hb).ne hcb (by decide)⟩
  constructor
  · intro h
    obtain ⟨pieces, hwritten, hmeant⟩ := Codec.QuotedPrintable.exists_pieces_of_decode h
    obtain ⟨breaks, hall, hencode⟩ := exists_breaks_of_meant hmeant
    exact ⟨breaks, hall, (spaced_eq_iff (hplain hall)).mp
      (Text.Utf8.encode_injective (hwritten.symm.trans hencode.symm))⟩
  · rintro ⟨breaks, hall, rfl⟩
    rw [(spaced_eq_iff (hplain hall)).mpr rfl]
    induction breaks with
    | nil => rfl
    | cons b breaks ih =>
      obtain ⟨hb, hbreaks⟩ := List.forall_mem_cons.mp hall
      obtain ⟨p, hwritten, hmeant⟩ := exists_piece_of_isBreak hb
      rw [List.flatten_cons, Text.Utf8.encode_append, ← hwritten,
        Codec.QuotedPrintable.decode_written, hmeant, ih hbreaks]
      rfl

theorem reads_nil_iff {coding payload : List Char} :
    Reads coding payload [] ↔ HoldsNothing coding payload := by
  rw [Reads, HoldsNothing, base64_eq_nil_iff, quotedPrintable_eq_nil_iff]

theorem Word.decode_eq_nil_iff {word : Word} : word.decode = .ok [] ↔
    KnownCharset word.charset ∧ HoldsNothing word.coding word.payload := by
  rw [Word.decode_eq_ok_iff, ← reads_nil_iff]
  constructor
  · rintro ⟨bytes, hreads, hcharset⟩
    obtain ⟨hknown, rfl⟩ := charset_eq_nil_iff.mp hcharset
    exact ⟨hknown, hreads⟩
  · exact fun ⟨hknown, hreads⟩ => ⟨[], hreads, charset_eq_nil_iff.mpr ⟨hknown, rfl⟩⟩

theorem kept_eq_nil_iff {afterWord : Bool} {before : List Char} : kept afterWord before = [] ↔
    before = [] ∨ afterWord = true ∧ ∀ c ∈ before, Text.isBlank c = true := by
  rw [← Text.trim_eq_nil_iff, kept]
  split
  · next h => simp_all
  · next h => simp_all

theorem HoldsNothing.not_mem {coding payload : List Char} (h : HoldsNothing coding payload) :
    '?' ∉ coding ∧ '?' ∉ payload := by
  rcases h with ⟨hcoding, hpayload⟩ | ⟨hcoding, breaks, hbreaks, rfl⟩
  · refine ⟨?_, fun hm => absurd (hpayload '?' hm) (by decide)⟩
    rcases hcoding with rfl | rfl <;> decide
  · refine ⟨?_, fun hm => ?_⟩
    · rcases hcoding with rfl | rfl <;> decide
    · obtain ⟨b, hb, hmem⟩ := List.mem_flatten.mp hm
      exact (hbreaks b hb).ne hmem (by decide) rfl

theorem split_append {charset coding payload : List Char} (rest : List Char) (hname : '?' ∉ charset)
    (hcoding : '?' ∉ coding) (hpayload : '?' ∉ payload) :
    split (charset ++ '?' :: (coding ++ '?' :: (payload ++ '?' :: '=' :: rest))) =
      some ⟨charset, coding, payload, rest⟩ := by
  have hlast : Text.cut ['?', '='] (payload ++ '?' :: '=' :: rest) = some (payload, rest) :=
    Text.cut_append rest hpayload ['=']
  simp [split, Text.cut_singleton_append _ hname, Text.cut_singleton_append _ hcoding, hlast]

theorem not_mem_charset_of_split {text : List Char} {word : Word} (h : split text = some word) :
    '?' ∉ word.charset := by
  simp only [split, Option.bind_eq_bind, Option.bind_eq_some_iff, Prod.exists] at h
  obtain ⟨_, _, hcut, _, _, _, _, _, _, h⟩ := h
  cases h
  exact (Text.cut_singleton_eq_some_iff.mp hcut).1

theorem Decodes.hollow {afterWord : Bool} {text decoded : List Char}
    (h : Decodes afterWord text decoded) (hempty : decoded = []) : Hollow afterWord text := by
  induction h with
  | plain => exact hempty ▸ .nil
  | word opening found read _ ih =>
    simp only [List.append_eq_nil_iff] at hempty
    obtain ⟨⟨hkept, rfl⟩, hlater⟩ := hempty
    obtain ⟨hknown, hnothing⟩ := Word.decode_eq_nil_iff.mp read
    rw [eq_of_cut_split opening found]
    exact .word (kept_eq_nil_iff.mp hkept) (not_mem_charset_of_split found) hknown hnothing
      (ih hlater)

theorem Decodes.of_write {afterWord : Bool} {before charset coding payload rest here later : List Char}
    (hbefore : ¬ ['=', '?'] <:+: before) (hname : '?' ∉ charset) (hcoding : '?' ∉ coding)
    (hpayload : '?' ∉ payload) (hread : Word.decode ⟨charset, coding, payload, rest⟩ = .ok here)
    (hrest : Decodes true rest later) :
    Decodes afterWord (before ++ (write charset coding payload ++ rest))
      (kept afterWord before ++ here ++ later) := by
  have hsplit := split_append rest hname hcoding hpayload
  have hmark : ¬ ['=', '?'] <:+: before ++ ['='] := by
    intro hi
    rcases List.infix_concat_iff.mp hi with hlast | hearlier
    · have hend : '?' = '=' := by simpa using hlast.getLast (List.cons_ne_nil '=' ['?'])
      exact absurd hend (by decide)
    · exact hbefore hearlier
  have hcut : Text.cut ['=', '?'] (before ++ (write charset coding payload ++ rest)) =
      some (before, charset ++ '?' :: (coding ++ '?' :: (payload ++ '?' :: '=' :: rest))) := by
    simpa [write] using Text.cut_append_of_not_infix
      (charset ++ '?' :: (coding ++ '?' :: (payload ++ '?' :: '=' :: rest))) hmark
  exact .word hcut hsplit hread hrest

theorem not_hasWord_of_free {text : List Char} (h : ¬ ['=', '?'] <:+: text) : ¬ HasWord text := by
  rintro ⟨charset, coding, payload, hinfix⟩
  have hmark : ['=', '?'] <+: write charset coding payload := List.prefix_append ['=', '?'] _
  exact h (hmark.isInfix.trans hinfix)

theorem Hollow.decodes {afterWord : Bool} {text : List Char} (h : Hollow afterWord text) :
    Decodes afterWord text [] := by
  induction h with
  | nil => exact .plain (not_hasWord_of_free (by decide))
  | @word afterWord before charset coding payload rest gap name known nothing _ ih =>
    obtain ⟨hcoding, hpayload⟩ := nothing.not_mem
    have hbefore : ¬ ['=', '?'] <:+: before := by
      intro hi
      have hequals : '=' ∈ before := hi.subset List.mem_cons_self
      rcases gap with rfl | ⟨-, hblank⟩
      · exact List.not_mem_nil hequals
      · exact absurd (hblank '=' hequals) (by decide)
    have hread : Word.decode ⟨charset, coding, payload, rest⟩ = .ok [] :=
      Word.decode_eq_nil_iff.mpr ⟨known, nothing⟩
    have hdecodes : Decodes afterWord _ (kept afterWord before ++ [] ++ []) :=
      .of_write hbefore name hcoding hpayload hread ih
    rwa [kept_eq_nil_iff.mpr gap] at hdecodes

theorem decode_eq_empty_iff {text : String} :
    decode text = .ok "" ↔ Hollow false text.toList := by
  rw [decode, Answer.map_eq_ok_iff]
  constructor
  · rintro ⟨decoded, hdecoded, hempty⟩
    exact (decodes_of_decodeFrom hdecoded).hollow (by simpa using hempty)
  · exact fun h => ⟨[], h.decodes.decodeFrom, rfl⟩

end Mailroom.Mime.EncodedWord
