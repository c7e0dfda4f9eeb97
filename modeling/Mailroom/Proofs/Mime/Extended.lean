import Mailroom.Proofs.Mime.Lookup
import Mailroom.Proofs.Text.Number
import Mailroom.Proofs.Text.Utf8

/-!
# Extended values are read back

The bytes of a text may be cut anywhere, also inside characters, and written in sections
(RFC 2231): percent-encoded, or in quotes if they are a text by themselves. `split_extended` says
that they are read back as that text, wherever the sections stand among other parameters, and that
the values of these are what they are without the sections.
-/

namespace Mailroom.Mime.Parameters

-- ---------------------------------------------------------------------------
-- Percent-encoding
-- ---------------------------------------------------------------------------

def specials : List Char :=
  ['(', ')', '<', '>', '@', ',', ';', ':', '\\', '"', '/', '[', ']', '?', '=', '*', '\'', '%']

/-- A character that stands for itself in an encoded value: visible, in ASCII and not special. -/
def isAttributeChar (c : Char) : Bool :=
  0x20 < c.toNat && c.toNat < 0x7f && !specials.contains c

/-- How bytes may be encoded: any of them as `%XX`, with digits in either case, and those of an
attribute character as this character. -/
inductive Encodes : List UInt8 → List Char → Prop
  | nil : Encodes [] []
  | literal {c : Char} {bs : List UInt8} {cs : List Char} (hc : isAttributeChar c = true)
      (h : Encodes bs cs) : Encodes (UInt8.ofNat c.toNat :: bs) (c :: cs)
  | escaped {high low : Char} {m n : Nat} {bs : List UInt8} {cs : List Char}
      (hm : Codec.Hex.value? high = some m) (hn : Codec.Hex.value? low = some n)
      (h : Encodes bs cs) : Encodes (UInt8.ofNat (16 * m + n) :: bs) ('%' :: high :: low :: cs)

theorem toNat_lt_of_isAttributeChar {c : Char} (h : isAttributeChar c = true) : c.toNat < 128 := by
  simp only [isAttributeChar, Bool.and_eq_true, decide_eq_true_eq] at h
  omega

theorem toNat_lt_of_value? {c : Char} {n : Nat} (h : Codec.Hex.value? c = some n) :
    c.toNat < 128 := by
  unfold Codec.Hex.value? at h
  simp only at h
  repeat' split at h
  all_goals first | omega | exact nomatch h

theorem isAttributeChar_of_value? {c : Char} {n : Nat} (h : Codec.Hex.value? c = some n) :
    isAttributeChar c = true :=
  Text.forall_ascii (p := fun c => (Codec.Hex.value? c).isSome = true → isAttributeChar c = true)
    (by decide +kernel) (toNat_lt_of_value? h) (h ▸ rfl)

theorem Encodes.plain {bs : List UInt8} {cs : List Char} (h : Encodes bs cs) :
    ∀ c ∈ cs, Text.isBlank c = false ∧ c ≠ ';' ∧ c ≠ '"' := by
  have hchar : ∀ {c : Char}, isAttributeChar c = true →
      Text.isBlank c = false ∧ c ≠ ';' ∧ c ≠ '"' := fun {c} hc =>
    Text.forall_ascii (p := fun c => isAttributeChar c = true →
        Text.isBlank c = false ∧ c ≠ ';' ∧ c ≠ '"') (by decide +kernel)
      (toNat_lt_of_isAttributeChar hc) hc
  induction h with
  | nil => simp
  | literal hc _ ih => exact List.forall_mem_cons.mpr ⟨hchar hc, ih⟩
  | escaped hm hn _ ih =>
    simp only [List.forall_mem_cons]
    exact ⟨by decide, hchar (isAttributeChar_of_value? hm), hchar (isAttributeChar_of_value? hn), ih⟩

theorem percentDecode_cons {b : UInt8} (h : b ≠ 0x25) (rest : List UInt8) :
    percentDecode (b :: rest) = b :: percentDecode rest := by
  match rest with
  | [] => rfl
  | [_] => rfl
  | _ :: _ :: _ => rw [percentDecode, if_neg h]

theorem percentDecode_escape {a b : UInt8} {m n : Nat}
    (ha : Codec.QuotedPrintable.digit? a = some m) (hb : Codec.QuotedPrintable.digit? b = some n)
    (rest : List UInt8) :
    percentDecode (0x25 :: a :: b :: rest) = UInt8.ofNat (16 * m + n) :: percentDecode rest := by
  rw [percentDecode, if_pos rfl, ha, hb]

theorem encode_cons_ascii {c : Char} (h : c.toNat < 128) (cs : List Char) :
    Text.Utf8.encode (c :: cs) = UInt8.ofNat c.toNat :: Text.Utf8.encode cs := by
  show Text.Utf8.encodeChar c ++ _ = _
  rw [Text.Utf8.encodeChar_of_lt h]
  rfl

theorem digit?_ofNat {c : Char} (h : c.toNat < 128) :
    Codec.QuotedPrintable.digit? (UInt8.ofNat c.toNat) = Codec.Hex.value? c := by
  have hc : (UInt8.ofNat c.toNat).toNat = c.toNat := by
    rw [UInt8.toNat_ofNat']
    omega
  rw [Codec.QuotedPrintable.digit?, hc, Char.ofNat_toNat]

theorem Encodes.percentDecode {bs : List UInt8} {cs : List Char} (h : Encodes bs cs) :
    percentDecode (Text.Utf8.encode cs) = bs := by
  induction h with
  | nil => rfl
  | @literal c bs cs hc _ ih =>
    have hne : UInt8.ofNat c.toNat ≠ 0x25 :=
      Text.forall_ascii (p := fun c => isAttributeChar c = true → UInt8.ofNat c.toNat ≠ 0x25)
        (by decide +kernel) (toNat_lt_of_isAttributeChar hc) hc
    rw [encode_cons_ascii (toNat_lt_of_isAttributeChar hc), percentDecode_cons hne, ih]
  | @escaped high low m n bs cs hm hn _ ih =>
    have hhigh := toNat_lt_of_value? hm
    have hlow := toNat_lt_of_value? hn
    rw [encode_cons_ascii (by decide), encode_cons_ascii hhigh, encode_cons_ascii hlow]
    refine (percentDecode_escape ?_ ?_ _).trans (congrArg _ ih)
    · rw [digit?_ofNat hhigh, hm]
    · rw [digit?_ofNat hlow, hn]

-- ---------------------------------------------------------------------------
-- Segments
-- ---------------------------------------------------------------------------

/-- Quotes are closed, and no semicolon stands outside of them. -/
inductive Balanced : List Char → Prop
  | nil : Balanced []
  | plain {c : Char} {cs : List Char} (hs : c ≠ ';') (hq : c ≠ '"') (h : Balanced cs) :
      Balanced (c :: cs)
  | quoted {text written cs : List Char} (ht : Escapes text written) (h : Balanced cs) :
      Balanced ('"' :: (written ++ ['"']) ++ cs)

theorem Balanced.closed {cs : List Char} (h : Balanced cs) : Closed cs := by
  induction h with
  | nil => exact fun _ => rfl
  | @plain c cs hs hq _ ih =>
    have hc : Closed [c] := closed_of_not_mem (by simpa using hs.symm) (by simpa using hq.symm)
    exact hc.append ih
  | quoted ht _ ih => exact ht.closed.append ih

theorem balanced_of_not_mem {cs : List Char} (hs : ';' ∉ cs) (hq : '"' ∉ cs) : Balanced cs := by
  induction cs with
  | nil => exact .nil
  | cons c cs ih =>
    simp only [List.mem_cons, not_or] at hs hq
    exact .plain (Ne.symm hs.1) (Ne.symm hq.1) (ih hs.2 hq.2)

theorem Balanced.append {a b : List Char} (ha : Balanced a) (hb : Balanced b) :
    Balanced (a ++ b) := by
  induction ha with
  | nil => exact hb
  | plain hs hq _ ih => exact .plain hs hq ih
  | @quoted text written cs ht _ ih =>
    rw [List.append_assoc]
    exact .quoted ht ih

def IsSectionOf (name segment : List Char) : Prop :=
  name ++ ['*'] <+: (Text.trim (segment.takeWhile (· ≠ '='))).map Char.toLower

instance (name segment : List Char) : Decidable (IsSectionOf name segment) :=
  inferInstanceAs (Decidable (_ <+: _))

theorem isSectionOf_of_read {name segment : List Char} {s : Section}
    (h : Entry.ofSegment? segment = some (.part (String.ofList name) s)) :
    IsSectionOf name segment := by
  obtain ⟨key, raw, rfl, hequals, he⟩ := Entry.cases_ofSegment? h
  have hkey : (key ++ '=' :: raw).takeWhile (· ≠ '=') = key := by
    rw [List.takeWhile_append_of_pos]
    · simp
    · exact fun c hc => decide_eq_true fun e => hequals (e ▸ hc)
  rw [IsSectionOf, hkey]
  obtain h | ⟨base, mark, t, hbase, -, h⟩ := he
  · exact nomatch h
  · obtain rfl : name = base := String.ofList_inj.mp (Entry.part.inj h).1
    exact ⟨mark, by rw [hbase, List.append_assoc]; rfl⟩

-- ---------------------------------------------------------------------------
-- Sections
-- ---------------------------------------------------------------------------

def declaration : List Char := "utf-8''".toList

/-- How the chunk with an index may be written: what follows the first asterisk of its key, and its
value. The only chunk needs no number, and quotes are for later chunks that are a text. -/
inductive WritesChunk (count : Nat) : Nat → List UInt8 → List Char → List Char → Prop
  | whole {bs : List UInt8} {cs : List Char} (h : Encodes bs cs) (only : count = 1) :
      WritesChunk count 0 bs [] (declaration ++ cs)
  | first {bs : List UInt8} {cs : List Char} (h : Encodes bs cs) :
      WritesChunk count 0 bs ['0', '*'] (declaration ++ cs)
  | encoded (i : Nat) {bs : List UInt8} {cs : List Char} (h : Encodes bs cs) :
      WritesChunk count (i + 1) bs (Nat.toDigits 10 (i + 1) ++ ['*']) cs
  | quoted (i : Nat) {text written : List Char} (h : Escapes text written) :
      WritesChunk count (i + 1) (Text.Utf8.encode text) (Nat.toDigits 10 (i + 1))
        ('"' :: (written ++ ['"']))

def Blank (cs : List Char) : Prop := ∀ c ∈ cs, Text.isBlank c = true

/-- How a chunk may be written as a segment. White space may stand around the key and the value. -/
inductive WritesSegment (name : List Char) (count i : Nat) (chunk : List UInt8) : List Char → Prop
  | intro {mark value before behind front after : List Char} (hb : Blank before) (hbe : Blank behind)
      (hf : Blank front) (ha : Blank after) (h : WritesChunk count i chunk mark value) :
      WritesSegment name count i chunk
        (before ++ (name ++ '*' :: mark) ++ behind ++ '=' :: (front ++ value ++ after))

inductive WritesFrom (name : List Char) (count : Nat) :
    Nat → List (List UInt8) → List (List Char) → Prop
  | nil (i : Nat) : WritesFrom name count i [] []
  | cons {i : Nat} {chunk : List UInt8} {chunks : List (List UInt8)} {segment : List Char}
      {segments : List (List Char)} (h : WritesSegment name count i chunk segment)
      (rest : WritesFrom name count (i + 1) chunks segments) :
      WritesFrom name count i (chunk :: chunks) (segment :: segments)

inductive Holds : Nat → List UInt8 → Section → Prop
  | first {bs : List UInt8} {cs : List Char} (h : Encodes bs cs) :
      Holds 0 bs ⟨0, true, declaration ++ cs⟩
  | encoded (i : Nat) {bs : List UInt8} {cs : List Char} (h : Encodes bs cs) :
      Holds (i + 1) bs ⟨i + 1, true, cs⟩
  | quoted (i : Nat) (text : List Char) : Holds (i + 1) (Text.Utf8.encode text) ⟨i + 1, false, text⟩

theorem Holds.index {i : Nat} {chunk : List UInt8} {s : Section} (h : Holds i chunk s) :
    s.index = i := by
  cases h <;> rfl

theorem Holds.bytes {i : Nat} {chunk : List UInt8} {s : Section} (h : Holds (i + 1) chunk s) :
    s.bytes = chunk := by
  cases h with
  | encoded _ h => exact h.percentDecode
  | quoted => rfl

theorem declaredCharset?_declaration (cs : List Char) :
    declaredCharset? (declaration ++ cs) = some ("utf-8".toList, cs) := by
  have hname : '\'' ∉ "utf-8".toList := by decide
  have hcharset : Text.cut ['\''] (declaration ++ cs) = some ("utf-8".toList, '\'' :: cs) :=
    Text.cut_singleton_append ('\'' :: cs) hname
  have hlanguage : Text.cut ['\''] ('\'' :: cs) = some ([], cs) :=
    Text.cut_singleton_append cs List.not_mem_nil
  simp [declaredCharset?, hcharset, hlanguage]

theorem Holds.joined {chunk : List UInt8} {s : Section} (h : Holds 0 chunk s) (rest : List Section) :
    joined (s :: rest) = ("utf-8".toList, chunk ++ rest.flatMap Section.bytes) := by
  obtain ⟨h⟩ := h
  simp only [Parameters.joined, if_true, declaredCharset?_declaration]
  exact congrArg (fun bs => ("utf-8".toList, bs ++ rest.flatMap Section.bytes)) h.percentDecode

theorem Section.ofMark?_encoded {i : Nat} (hi : i < Nat.pow 2 32) (value : List Char) :
    Section.ofMark? (Nat.toDigits 10 i ++ ['*']) value = some ⟨i, true, value⟩ := by
  have hstar : Text.dropSuffix? ['*'] (Nat.toDigits 10 i ++ ['*']) = some (Nat.toDigits 10 i) :=
    Text.dropSuffix?_eq_some_iff.mpr rfl
  have hnumber : Text.natural? (Nat.pow 2 32) (Nat.toDigits 10 i) = some i :=
    Text.natural?_toDigits hi
  simp [Section.ofMark?, hstar, hnumber]

theorem Section.ofMark?_plain {i : Nat} (hi : i < Nat.pow 2 32) (value : List Char) :
    Section.ofMark? (Nat.toDigits 10 i) value = some ⟨i, false, value⟩ := by
  have hstar : Text.dropSuffix? ['*'] (Nat.toDigits 10 i) = none := by
    refine Option.eq_none_iff_forall_ne_some.mpr fun rest h => ?_
    have hm : '*' ∈ Nat.toDigits 10 i :=
      Text.dropSuffix?_eq_some_iff.mp h ▸ List.mem_append_right rest List.mem_cons_self
    exact absurd (Text.isDigit_of_mem_toDigits hm) (by decide)
  have hnumber : Text.natural? (Nat.pow 2 32) (Nat.toDigits 10 i) = some i :=
    Text.natural?_toDigits hi
  simp [Section.ofMark?, hstar, hnumber, Nat.toDigits_ne_nil]

theorem unquote_of_not_mem {raw : List Char} (h : '"' ∉ raw) : unquote raw = raw := by
  match raw with
  | [] => rfl
  | c :: raw =>
    have hc : c ≠ '"' := fun e => h (e ▸ List.mem_cons_self)
    simp [unquote, hc]

theorem trimmed_of_forall {cs : List Char} (h : ∀ c ∈ cs, Text.isBlank c = false) :
    Text.Trimmed cs :=
  ⟨fun c hc => h c (List.mem_of_mem_head? hc), fun c hc => h c (List.mem_of_mem_getLast? hc)⟩

theorem WritesChunk.value {count i : Nat} {chunk : List UInt8} {mark value : List Char}
    (h : WritesChunk count i chunk mark value) : Text.Trimmed value ∧ Closed value := by
  have hplain : ∀ {value : List Char},
      (∀ c ∈ value, Text.isBlank c = false ∧ c ≠ ';' ∧ c ≠ '"') →
      Text.Trimmed value ∧ Closed value := fun h =>
    ⟨trimmed_of_forall fun c hc => (h c hc).1,
      closed_of_not_mem (fun hm => (h _ hm).2.1 rfl) fun hm => (h _ hm).2.2 rfl⟩
  have hdeclaration : ∀ c ∈ declaration, Text.isBlank c = false ∧ c ≠ ';' ∧ c ≠ '"' := by
    have hall : (declaration.all fun c => !Text.isBlank c && c != ';' && c != '"') = true := by
      decide
    simpa [and_assoc] using hall
  cases h with
  | whole h => exact hplain (List.forall_mem_append.mpr ⟨hdeclaration, h.plain⟩)
  | first h => exact hplain (List.forall_mem_append.mpr ⟨hdeclaration, h.plain⟩)
  | encoded _ h => exact hplain h.plain
  | quoted _ h => exact ⟨trimmed_quoted _, h.closed⟩

theorem WritesChunk.holds {count i : Nat} {chunk : List UInt8} {mark value : List Char}
    (h : WritesChunk count i chunk mark value) (hi : i < Nat.pow 2 32) :
    ∃ s, Section.ofMark? mark (unquote value) = some s ∧ Holds i chunk s := by
  have hunquoted : ∀ {front bs cs}, '"' ∉ front → Encodes bs cs →
      unquote (front ++ cs) = front ++ cs := fun hf h =>
    unquote_of_not_mem fun hm => (List.mem_append.mp hm).elim hf fun hm => (h.plain _ hm).2.2 rfl
  cases h with
  | whole h =>
    rw [hunquoted (by decide) h]
    exact ⟨_, rfl, .first h⟩
  | first h =>
    rw [hunquoted (by decide) h]
    exact ⟨_, Section.ofMark?_encoded hi _, .first h⟩
  | encoded i h =>
    rw [← List.nil_append value, hunquoted List.not_mem_nil h]
    exact ⟨_, Section.ofMark?_encoded hi _, .encoded i h⟩
  | quoted i h =>
    rw [h.unquote]
    exact ⟨_, Section.ofMark?_plain hi _, .quoted i _⟩

theorem WritesChunk.mark {count i : Nat} {chunk : List UInt8} {mark value : List Char}
    (h : WritesChunk count i chunk mark value) : ∀ c ∈ mark, c = '*' ∨ c.isDigit = true := by
  have hdigits : ∀ c ∈ Nat.toDigits 10 i, c = '*' ∨ c.isDigit = true := fun _ hc =>
    .inr (Text.isDigit_of_mem_toDigits hc)
  cases h with
  | whole => exact fun c hc => absurd hc List.not_mem_nil
  | first => exact List.forall_mem_cons.mpr ⟨.inr rfl, List.forall_mem_singleton.mpr (.inl rfl)⟩
  | encoded => exact List.forall_mem_append.mpr ⟨hdigits, List.forall_mem_singleton.mpr (.inl rfl)⟩
  | quoted => exact hdigits

theorem plain_of_mark {c : Char} (h : c = '*' ∨ c.isDigit = true) :
    Text.isBlank c = false ∧ c ≠ ';' ∧ c ≠ '"' ∧ c ≠ '=' ∧ c.toLower = c := by
  refine Text.forall_ascii (p := fun c => c = '*' ∨ c.isDigit = true →
    Text.isBlank c = false ∧ c ≠ ';' ∧ c ≠ '"' ∧ c ≠ '=' ∧ c.toLower = c) (by decide +kernel) ?_ h
  rcases h with rfl | h
  · decide
  · have hnine : c.toNat ≤ 57 := (Bool.and_eq_true_iff.mp h).2 |> of_decide_eq_true
    omega

theorem Key.trimmed_section {name mark : List Char} (hname : Key name)
    (hm : ∀ c ∈ mark, c = '*' ∨ c.isDigit = true) : Text.Trimmed (name ++ '*' :: mark) := by
  obtain ⟨first, more, hfirst⟩ := List.exists_cons_of_ne_nil hname.named
  refine ⟨fun c hc => hname.trimmed.1 c ?_, fun c hc => ?_⟩
  · rw [hfirst, List.cons_append, List.head?_cons] at hc
    rw [hfirst]
    exact hc
  · rw [List.getLast?_append_of_ne_nil _ (List.cons_ne_nil '*' mark)] at hc
    have hlast := List.mem_of_mem_getLast? hc
    exact (plain_of_mark (List.forall_mem_cons.mpr ⟨.inl rfl, hm⟩ c hlast)).1

theorem not_mem_of_blank {c : Char} {cs : List Char} (h : Blank cs) (hc : Text.isBlank c = false) :
    c ∉ cs := fun hm => absurd (h c hm) (by simp [hc])

theorem WritesSegment.holds {name : List Char} {count i : Nat} {chunk : List UInt8}
    {segment : List Char} (h : WritesSegment name count i chunk segment) (hname : Key name)
    (hi : i < Nat.pow 2 32) :
    ∃ s, Entry.ofSegment? segment = some (.part (String.ofList name) s) ∧ Holds i chunk s := by
  obtain @⟨mark, value, before, behind, front, after, hb, hbe, hf, ha, h⟩ := h
  have hmark := h.mark
  have hlower : (name ++ '*' :: mark).map Char.toLower = name ++ '*' :: mark := by
    rw [List.map_append, hname.lower, List.map_cons,
      Text.map_toLower_eq_self fun c hc => (plain_of_mark (hmark c hc)).2.2.2.2]
    rfl
  have hequals : '=' ∉ name ++ '*' :: mark := by
    simp only [List.mem_append, List.mem_cons, not_or]
    exact ⟨hname.token.1, by decide, fun hm => (plain_of_mark (hmark _ hm)).2.2.2.1 rfl⟩
  obtain ⟨s, hs, hholds⟩ := h.holds hi
  refine ⟨s, ?_, hholds⟩
  rw [Entry.ofSegment?_append before behind front after hb (hname.trimmed_section hmark) (by simp)
    hequals hbe hf h.value.1 ha, hlower, Text.cut_singleton_append mark hname.token.2]
  exact congrArg (Option.map _) hs

theorem Blank.closed {cs : List Char} (h : Blank cs) : Closed cs :=
  closed_of_not_mem (not_mem_of_blank h (by decide)) (not_mem_of_blank h (by decide))

theorem closed_append {key value before behind front after : List Char} (hb : Blank before)
    (hk : Closed key) (hbe : Blank behind) (hf : Blank front) (hv : Closed value) (ha : Blank after) :
    Closed (before ++ key ++ behind ++ '=' :: (front ++ value ++ after)) := by
  have hkey : Closed (before ++ key ++ behind) := (hb.closed.append hk).append hbe.closed
  have hequals : Closed ['='] := closed_of_not_mem (by decide) (by decide)
  have hvalue : Closed (front ++ value ++ after) := (hf.closed.append hv).append ha.closed
  exact hkey.append (hequals.append hvalue)

theorem WritesSegment.closed {name : List Char} {count i : Nat} {chunk : List UInt8}
    {segment : List Char} (h : WritesSegment name count i chunk segment) (hname : Key name) :
    Closed segment := by
  obtain @⟨mark, value, before, behind, front, after, hb, hbe, hf, ha, h⟩ := h
  have hmark : Closed ('*' :: mark) := by
    have hplain := fun c hm => plain_of_mark (List.forall_mem_cons.mpr ⟨.inl rfl, h.mark⟩ c hm)
    exact closed_of_not_mem (fun hm => (hplain _ hm).2.1 rfl) fun hm => (hplain _ hm).2.2.1 rfl
  have hkey : Closed (name ++ '*' :: mark) :=
    (closed_of_not_mem hname.closed.1 hname.closed.2).append hmark
  exact closed_append hb hkey hbe hf h.value.2 ha

theorem WritesFrom.closed {name : List Char} {count i : Nat} {chunks : List (List UInt8)}
    {segments : List (List Char)} (h : WritesFrom name count i chunks segments) (hname : Key name) :
    ∀ s ∈ segments, Closed s := by
  induction h with
  | nil => simp
  | cons h _ ih => exact List.forall_mem_cons.mpr ⟨h.closed hname, ih⟩

theorem WritesFrom.later {name : List Char} {count i : Nat} {chunks : List (List UInt8)}
    {segments : List (List Char)} (h : WritesFrom name count i chunks segments) (hname : Key name)
    (hpos : 0 < i) (hi : i + chunks.length ≤ Nat.pow 2 32) :
    ∃ parts : List Section,
      segments.filterMap Entry.ofSegment? = parts.map (.part (String.ofList name)) ∧
      parts.map Section.index = List.range' i chunks.length ∧
      parts.flatMap Section.bytes = chunks.flatten := by
  induction h with
  | nil => exact ⟨[], rfl, rfl, rfl⟩
  | @cons i chunk chunks segment segments h _ ih =>
    rw [List.length_cons] at hi
    obtain ⟨s, hread, hs⟩ := h.holds hname (by omega)
    obtain ⟨parts, hparts, hindex, hbytes⟩ := ih (by omega) (by omega)
    refine ⟨s :: parts, ?_, ?_, ?_⟩
    · rw [List.filterMap_cons_some hread, hparts]
      rfl
    · rw [List.map_cons, hs.index, hindex]
      rfl
    · obtain ⟨j, rfl⟩ := Nat.exists_eq_succ_of_ne_zero (Nat.ne_of_gt hpos)
      rw [List.flatMap_cons, hs.bytes, hbytes, List.flatten_cons]

theorem WritesFrom.read {name : List Char} {count : Nat} {chunks : List (List UInt8)}
    {segments : List (List Char)} (h : WritesFrom name count 0 chunks segments)
    (hname : Key name) (hne : chunks ≠ []) (hi : chunks.length ≤ Nat.pow 2 32) :
    ∃ parts : List Section,
      segments.filterMap Entry.ofSegment? = parts.map (.part (String.ofList name)) ∧
      (parts.Pairwise fun s t => s.index < t.index) ∧ parts ≠ [] ∧
      joined parts = ("utf-8".toList, chunks.flatten) := by
  cases h with
  | nil => exact absurd rfl hne
  | @cons _ chunk chunks segment segments h hrest =>
    rw [List.length_cons] at hi
    -- the first section declares the character set, and the later ones add bytes only
    obtain ⟨s, hread, hs⟩ := h.holds hname (by omega)
    obtain ⟨parts, hparts, hindex, hbytes⟩ := hrest.later hname (by omega) (by omega)
    refine ⟨s :: parts, ?_, ?_, List.cons_ne_nil s parts, ?_⟩
    · rw [List.filterMap_cons_some hread, hparts]
      rfl
    · have hrange : (s :: parts).map Section.index = List.range' 0 (chunks.length + 1) := by
        rw [List.map_cons, hs.index, hindex]
        rfl
      exact List.pairwise_map.mp (hrange ▸ List.pairwise_lt_range')
    · rw [hs.joined, hbytes, List.flatten_cons]

theorem sectionsValue?_of_perm {sections parts : List Section} {v : String}
    (h : sections.Perm parts) (ho : parts.Pairwise fun s t => s.index < t.index)
    (hj : joined parts = ("utf-8".toList, Text.bytes v)) : sectionsValue? sections = some v := by
  have hdecode : Charset.decode "utf-8".toList (Text.bytes v) = .ok v.toList := by
    have hlowered : (Charset.name "utf-8".toList).map Char.toLower = "utf-8".toList := by decide
    rw [Charset.decode]
    simp only [hlowered, true_or, if_true, Text.bytes, Text.Utf8.decode_encode]
    rfl
  have hne : "utf-8".toList.isEmpty = false := by decide
  simp only [sectionsValue?, sortSections_eq_of_perm h ho, hj, hne, Bool.false_eq_true, if_false,
    hdecode]
  exact congrArg some String.ofList_toList

-- ---------------------------------------------------------------------------
-- Sections among other parameters
-- ---------------------------------------------------------------------------

theorem filterMap_of_mixed {α β : Type} {f : α → Option β} {mixed added others : List α}
    (hperm : mixed.Perm (added ++ others)) (horder : others.Sublist mixed)
    (hnone : ∀ s ∈ added, f s = none) : mixed.filterMap f = others.filterMap f := by
  have hlength : (others.filterMap f).length = (mixed.filterMap f).length := by
    rw [(hperm.filterMap f).length_eq, List.filterMap_append,
      List.filterMap_eq_nil_iff.mpr hnone, List.nil_append]
  exact ((horder.filterMap f).eq_of_length hlength).symm

theorem sectionsOf_map_part (name : String) (parts : List Section) :
    sectionsOf name (parts.map (.part name)) = parts := by
  simp [sectionsOf, List.filterMap_map]

theorem valueOf?_mixed {name v : String} {parts : List Section} {mixed others : List Entry}
    (ho : parts.Pairwise fun s t => s.index < t.index) (hne : parts ≠ [])
    (hj : joined parts = ("utf-8".toList, Text.bytes v)) (hothers : sectionsOf name others = [])
    (hperm : mixed.Perm (parts.map (.part name) ++ others)) (horder : others.Sublist mixed)
    (key : String) : valueOf? key mixed = if key = name then some v else valueOf? key others := by
  split
  · next h =>
    subst h
    have hsections : (sectionsOf key mixed).Perm parts := by
      have hperm := sectionsOf_perm key hperm
      rwa [sectionsOf_append, sectionsOf_map_part, hothers, List.append_nil] at hperm
    have hsome : sectionsOf key mixed ≠ [] := fun h => hne (h ▸ hsections).nil_eq.symm
    rw [valueOf?, joinedValue?, if_neg hsome, sectionsValue?_of_perm hsections ho hj]
    rfl
  · next h =>
    have hplain : plainValues key mixed = plainValues key others := by
      refine filterMap_of_mixed hperm horder fun e he => ?_
      obtain ⟨s, -, rfl⟩ := List.mem_map.mp he
      rfl
    have hsections : sectionsOf key mixed = sectionsOf key others := by
      refine filterMap_of_mixed hperm horder fun e he => ?_
      obtain ⟨s, -, rfl⟩ := List.mem_map.mp he
      exact if_neg h
    rw [valueOf?, joinedValue?, hplain, hsections, valueOf?, joinedValue?]

def assemble (head : List Char) (segments : List (List Char)) : String :=
  String.ofList (head ++ segments.flatMap fun s => ';' :: s)

/-- A text that is cut into chunks and written in sections is read back, and the other parameters
are read as they are without the sections. -/
theorem split_extended {name v : String} {head : List Char} {chunks : List (List UInt8)}
    {sections others segments : List (List Char)} (hname : Key name.toList) (hhead : Balanced head)
    (hchunks : chunks.flatten = Text.bytes v) (hone : 1 ≤ chunks.length)
    (hcount : chunks.length ≤ Nat.pow 2 32)
    (hsections : WritesFrom name.toList chunks.length 0 chunks sections)
    (hothers : ∀ s ∈ others, Balanced s ∧ ¬ IsSectionOf name.toList s)
    (hmixed : segments.Perm (sections ++ others)) (horder : others.Sublist segments) :
    (split (assemble head segments)).1 = String.ofList (Text.trim head) ∧
      ∀ key, (split (assemble head segments)).2.get? key =
        if Text.lowerAscii key = name then some v
        else (split (assemble head others)).2.get? key := by
  have hclosed : ∀ s ∈ others, Closed s := fun s hs => (hothers s hs).1.closed
  have hall : ∀ s ∈ segments, Closed s := fun s hs =>
    (List.mem_append.mp (hmixed.mem_iff.mp hs)).elim (hsections.closed hname s) (hclosed s)
  obtain ⟨parts, hparts, ho, hne, hj⟩ :=
    hsections.read hname (List.length_pos_iff.mp hone) hcount
  rw [String.ofList_toList] at hparts
  have hentries : (segments.filterMap Entry.ofSegment?).Perm
      (parts.map (.part name) ++ others.filterMap Entry.ofSegment?) := by
    rw [← hparts, ← List.filterMap_append]
    exact hmixed.filterMap _
  have hnone : sectionsOf name (others.filterMap Entry.ofSegment?) = [] := by
    refine List.filterMap_eq_nil_iff.mpr fun e he => ?_
    obtain ⟨s, hs, hread⟩ := List.mem_filterMap.mp he
    cases e with
    | plain => rfl
    | part key content =>
      refine if_neg ?_
      rintro rfl
      exact (hothers s hs).2 (isSectionOf_of_read (by rwa [String.ofList_toList]))
  -- both values are cut into their segments, and then only what these say matters
  rw [assemble, split_closed hhead.closed hall, assemble, split_closed hhead.closed hclosed]
  refine ⟨rfl, fun key => ?_⟩
  rw [get?_ofSegments, get?_ofSegments]
  exact valueOf?_mixed ho hne (hchunks ▸ hj) hnone hentries (horder.filterMap _) _

namespace Shuffled

def chunks : List (List UInt8) := [[0xc3], [0xa9], Text.bytes "; \"x\"", Text.bytes "%'"]

def first : List Char := " filename*0*=utf-8''%C3".toList
def second : List Char := " filename*1*=%a9".toList
def third : List Char := " filename*2=\"; \\\"x\\\"\"".toList
def fourth : List Char := " filename*3*=%25%27".toList
def fallback : List Char := " filename=plain.txt".toList
def size : List Char := " size=\"1;2\"".toList

def segments : List (List Char) := [third, fallback, fourth, first, size, second]

theorem writes : WritesFrom "filename".toList 4 0 chunks [first, second, third, fourth] := by
  have hspace : Blank [' '] := by simp [Blank, Text.isBlank]
  have hnone : Blank [] := by simp [Blank]
  refine .cons ?_ (.cons ?_ (.cons ?_ (.cons ?_ (.nil 4))))
  · exact @WritesSegment.intro _ _ _ _ ['0', '*'] "utf-8''%C3".toList _ _ _ _ hspace hnone hnone
      hnone (.first (@Encodes.escaped 'C' '3' 12 3 _ _ rfl rfl .nil))
  · exact @WritesSegment.intro _ _ _ _ ['1', '*'] "%a9".toList _ _ _ _ hspace hnone hnone hnone
      (.encoded 0 (@Encodes.escaped 'a' '9' 10 9 _ _ rfl rfl .nil))
  · exact @WritesSegment.intro _ _ _ _ ['2'] "\"; \\\"x\\\"\"".toList _ _ _ _ hspace hnone hnone
      hnone (.quoted 1 (escapes_escapeChar "; \"x\"".toList))
  · exact @WritesSegment.intro _ _ _ _ ['3', '*'] "%25%27".toList _ _ _ _ hspace hnone hnone hnone
      (.encoded 2 (@Encodes.escaped '2' '5' 2 5 _ _ rfl rfl
        (@Encodes.escaped '2' '7' 2 7 _ _ rfl rfl .nil)))

theorem balanced : ∀ s ∈ [fallback, size], Balanced s ∧ ¬ IsSectionOf "filename".toList s := by
  have hfallback : Balanced fallback := balanced_of_not_mem (by decide) (by decide)
  have hkey : Balanced " size=".toList := balanced_of_not_mem (by decide) (by decide)
  have hsize : Balanced size := hkey.append (.quoted (escapes_escapeChar "1;2".toList) .nil)
  simp only [List.forall_mem_cons, List.not_mem_nil, false_imp_iff, implies_true, and_true]
  exact ⟨⟨hfallback, by decide +kernel⟩, hsize, by decide +kernel⟩

end Shuffled

/-- A character that is cut, a quoted section, and a plain parameter of the same name. -/
theorem split_extended_shuffled :
    Shuffled.chunks.flatten = Text.bytes "é; \"x\"%'" ∧
    Shuffled.segments.Perm ([Shuffled.first, Shuffled.second, Shuffled.third, Shuffled.fourth] ++
      [Shuffled.fallback, Shuffled.size]) ∧
    (split (assemble "attachment".toList Shuffled.segments)).1 = "attachment" ∧
    (split (assemble "attachment".toList Shuffled.segments)).2.get? "FileName" =
      some "é; \"x\"%'" ∧
    (split (assemble "attachment".toList Shuffled.segments)).2.get? "size" = some "1;2" := by
  have hbytes : Shuffled.chunks.flatten = Text.bytes "é; \"x\"%'" := by decide +kernel
  have hname : Key "filename".toList := by decide
  have hhead : Balanced "attachment".toList := balanced_of_not_mem (by decide) (by decide)
  have hmixed : Shuffled.segments.Perm
      ([Shuffled.first, Shuffled.second, Shuffled.third, Shuffled.fourth] ++
        [Shuffled.fallback, Shuffled.size]) := by decide +kernel
  obtain ⟨htoken, hget⟩ := split_extended hname hhead hbytes (by decide) (by decide)
    Shuffled.writes Shuffled.balanced hmixed (by decide +kernel)
  refine ⟨hbytes, hmixed, htoken, (hget "FileName").trans (if_pos (by decide)), ?_⟩
  refine (hget "size").trans ((if_neg (by decide)).trans ?_)
  decide +kernel

end Mailroom.Mime.Parameters
