import Mailroom.Proofs.Answer
import Mailroom.Text.Utf8

/-!
# Well-formed UTF-8 is read back

The bytes of a character take the machine from between characters to that character. So
both readings of encoded text are that text, and nothing is rejected or replaced. An ASCII byte
is read as its character in any bytes, and nothing else is.
-/

namespace Mailroom.Text.Utf8

theorem forall_byte {p : UInt8 → Prop} (h : ∀ n < 256, p (UInt8.ofNat n)) (b : UInt8) : p b := by
  have := h b.toNat b.toNat_lt
  rwa [UInt8.ofNat_toNat] at this

def step (pending : Option State) (b : UInt8) : Step :=
  match pending with
  | none => first b
  | some s => next s b

inductive Spells (c : Char) : Option State → List UInt8 → Prop
  | last {pending : Option State} {b : UInt8} (h : step pending b = .char c) : Spells c pending [b]
  | more {pending : Option State} {b : UInt8} {s : State} {bs : List UInt8}
      (h : step pending b = .more s) (rest : Spells c (some s) bs) : Spells c pending (b :: bs)

theorem lenientStep_of_char {pending : Option State} {b : UInt8} {c : Char}
    (h : step pending b = .char c) : lenientStep pending b = ([c], none) := by
  cases pending with
  | none => simp [step] at h; simp [lenientStep, lenientFirst, h]
  | some s => simp [step] at h; simp [lenientStep, h]

theorem lenientStep_of_more {pending : Option State} {b : UInt8} {s : State}
    (h : step pending b = .more s) : lenientStep pending b = ([], some s) := by
  cases pending with
  | none => simp [step] at h; simp [lenientStep, lenientFirst, h]
  | some s => simp [step] at h; simp [lenientStep, h]

theorem Spells.lenientFrom {c : Char} {pending : Option State} {bs : List UInt8}
    (h : Spells c pending bs) (rest : List UInt8) :
    lenientFrom pending (bs ++ rest) = c :: lenientFrom none rest := by
  induction h with
  | last h => simp [Utf8.lenientFrom, lenientStep_of_char h]
  | more h _ ih => simp [Utf8.lenientFrom, lenientStep_of_more h, ih]

theorem Spells.decodeFrom {c : Char} {pending : Option State} {bs : List UInt8}
    (h : Spells c pending bs) (index : Nat) (rest : List UInt8) :
    decodeFrom index pending (bs ++ rest) =
      (decodeFrom (index + bs.length) none rest).map (c :: ·) := by
  induction h generalizing index with
  | @last pending b h =>
    cases pending <;> simp only [step] at h <;> simp [Utf8.decodeFrom, h]
  | @more pending b s bs h _ ih =>
    have hlength : index + (b :: bs).length = index + 1 + bs.length := by
      rw [List.length_cons]
      omega
    rw [hlength, ← ih (index + 1)]
    cases pending <;> simp only [step] at h <;> simp [Utf8.decodeFrom, h]

theorem Spells.ne_nil {c : Char} {pending : Option State} {bs : List UInt8}
    (h : Spells c pending bs) : bs ≠ [] := by
  cases h <;> simp

theorem toNat_valid (c : Char) : c.toNat < 0xd800 ∨ 0xdfff < c.toNat ∧ c.toNat < 0x110000 :=
  c.valid

theorem first_two : ∀ k < 32, 2 ≤ k →
    first (UInt8.ofNat (0xc0 + k)) = .more ⟨1, 1, 0x80, 0xbf, k⟩ := by
  decide

theorem first_three : ∀ k < 16, first (UInt8.ofNat (0xe0 + k)) =
    .more ⟨1, 2, if k = 0 then 0xa0 else 0x80, if k = 0xd then 0x9f else 0xbf, k⟩ := by
  decide

theorem first_four : ∀ k < 5, first (UInt8.ofNat (0xf0 + k)) =
    .more ⟨1, 3, if k = 0 then 0x90 else 0x80, if k = 4 then 0x8f else 0xbf, k⟩ := by
  decide

theorem next_ofNat {s : State} {d : Nat} (hd : d < 64) (low : s.lowest ≤ 0x80 + d)
    (high : 0x80 + d ≤ s.highest) :
    next s (UInt8.ofNat (0x80 + d)) =
      if s.needed ≤ 1 then .char (Char.ofNat (s.value * 0x40 + d))
      else .more ⟨s.taken + 1, s.needed - 1, 0x80, 0xbf, s.value * 0x40 + d⟩ := by
  have h : (0x80 + d) % 256 = 0x80 + d := by omega
  simp [next, h, low, high]

theorem Spells.tail {c : Char} {s : State} {d : Nat} {bs : List UInt8} (hd : d < 64)
    (low : s.lowest ≤ 0x80 + d) (high : 0x80 + d ≤ s.highest) (needed : 1 < s.needed)
    (rest : Spells c (some ⟨s.taken + 1, s.needed - 1, 0x80, 0xbf, s.value * 0x40 + d⟩) bs) :
    Spells c (some s) (UInt8.ofNat (0x80 + d) :: bs) :=
  .more ((next_ofNat hd low high).trans (if_neg (Nat.not_le.mpr needed))) rest

theorem Spells.end {c : Char} {s : State} {d : Nat} (hd : d < 64) (low : s.lowest ≤ 0x80 + d)
    (high : 0x80 + d ≤ s.highest) (needed : s.needed = 1) (value : s.value * 0x40 + d = c.toNat) :
    Spells c (some s) [UInt8.ofNat (0x80 + d)] := by
  refine .last ((next_ofNat hd low high).trans ?_)
  simp [needed, value]

-- One case for each number of bytes. The first byte fixes the range of the second, and the
-- digits to base 64 add up to the code point.
theorem spells_encodeChar (c : Char) : Spells c none (encodeChar c) := by
  have hv := toNat_valid c
  unfold encodeChar
  simp only
  split
  · next h1 =>
    refine .last ?_
    have e : c.toNat % 256 = c.toNat := by omega
    simp [step, first, e, h1]
  · split
    · refine .more (first_two (c.toNat / 0x40) (by omega) (by omega)) ?_
      exact .end (by omega) (by simp) (by simp; omega) rfl (by simp; omega)
    · split
      · refine .more (first_three (c.toNat / 0x1000) (by omega)) ?_
        refine .tail (by omega) ?_ ?_ (by simp) ?_
        · simp only; split <;> omega
        · simp only; split <;> omega
        · exact .end (by omega) (by simp) (by simp; omega) rfl (by simp; omega)
      · refine .more (first_four (c.toNat / 0x40000) (by omega)) ?_
        refine .tail (by omega) ?_ ?_ (by simp) ?_
        · simp only; split <;> omega
        · simp only; split <;> omega
        · refine .tail (by omega) (by simp) (by simp; omega) (by simp) ?_
          exact .end (by omega) (by simp) (by simp; omega) rfl (by simp; omega)

theorem decodeLenient_encode (cs : List Char) : decodeLenient (encode cs) = cs := by
  show lenientFrom none (encode cs) = cs
  induction cs with
  | nil => rfl
  | cons c rest ih =>
    show lenientFrom none (encodeChar c ++ encode rest) = c :: rest
    rw [(spells_encodeChar c).lenientFrom, ih]

theorem decode_encode (cs : List Char) : decode (encode cs) = .ok cs := by
  suffices h : ∀ index, decodeFrom index none (encode cs) = .ok cs from h 0
  induction cs with
  | nil => exact fun _ => rfl
  | cons c rest ih =>
    intro index
    show decodeFrom index none (encodeChar c ++ encode rest) = .ok (c :: rest)
    rw [(spells_encodeChar c).decodeFrom, ih]
    rfl

theorem encode_injective {a b : List Char} (h : encode a = encode b) : a = b := by
  have hread := decode_encode a
  rw [h, decode_encode] at hread
  exact (Except.ok.inj hread).symm

theorem encode_append (a b : List Char) : encode (a ++ b) = encode a ++ encode b :=
  List.flatMap_append

theorem encode_ne_nil {cs : List Char} (h : cs ≠ []) : encode cs ≠ [] := by
  obtain ⟨c, rest, rfl⟩ := List.exists_cons_of_ne_nil h
  have hc : encodeChar c ≠ [] := (spells_encodeChar c).ne_nil
  simp [encode, hc]

theorem encodeChar_of_lt {c : Char} (h : c.toNat < 0x80) : encodeChar c = [UInt8.ofNat c.toNat] := by
  simp [encodeChar, h]

theorem toNat_eq_of_mem_encodeChar {c : Char} {b : UInt8} (h : b ∈ encodeChar c)
    (hb : b.toNat < 0x80) : c.toNat = b.toNat := by
  have hv := toNat_valid c
  unfold encodeChar at h
  simp only at h
  split at h
  · simp only [List.mem_singleton] at h
    subst h
    simp only [UInt8.toNat_ofNat']
    omega
  · exfalso
    split at h
    · simp only [List.mem_cons, List.not_mem_nil, or_false] at h
      rcases h with rfl | rfl <;> rw [UInt8.toNat_ofNat'] at hb <;> omega
    · split at h
      · simp only [List.mem_cons, List.not_mem_nil, or_false] at h
        rcases h with rfl | rfl | rfl <;> rw [UInt8.toNat_ofNat'] at hb <;> omega
      · simp only [List.mem_cons, List.not_mem_nil, or_false] at h
        rcases h with rfl | rfl | rfl | rfl <;> rw [UInt8.toNat_ofNat'] at hb <;> omega

theorem ofNat_mem_of_mem_encode {cs : List Char} {b : UInt8} (h : b ∈ encode cs)
    (hb : b.toNat < 0x80) : Char.ofNat b.toNat ∈ cs := by
  obtain ⟨c, hc, hbc⟩ := List.mem_flatMap.mp h
  rw [← toNat_eq_of_mem_encodeChar hbc hb, Char.ofNat_toNat]
  exact hc

-- ---------------------------------------------------------------------------
-- ASCII in any bytes
-- ---------------------------------------------------------------------------

theorem toNat_ofNat_cases (n : Nat) : (Char.ofNat n).toNat = n ∨ (Char.ofNat n).toNat = 0 := by
  by_cases h : n.isValidChar
  · exact .inl (congrArg Char.toNat (dif_pos h))
  · exact .inr (congrArg Char.toNat (dif_neg h))

/-- What holds of a character under way: no ASCII byte can be its next one, and its code point
will be beyond ASCII. -/
def State.Beyond (s : State) : Prop :=
  0x80 ≤ s.lowest ∧ (2 ≤ s.value ∨ 1 < s.needed ∧ 2 ≤ s.value * 0x40 + (s.lowest - 0x80))

theorem beyond_of_first {b : UInt8} {s : State} (h : first b = .more s) : s.Beyond := by
  unfold first at h
  simp only at h
  repeat' split at h
  all_goals cases h
  all_goals simp only [State.Beyond]; omega

theorem beyond_of_next {s t : State} {b : UInt8} (hs : s.Beyond) (h : next s b = .more t) :
    t.Beyond := by
  unfold next at h
  simp only at h
  repeat' split at h
  all_goals cases h
  simp only [State.Beyond] at hs ⊢
  omega

/-- A character that ends in a later byte is not in ASCII. An invalid code point is 0. -/
theorem toNat_of_next {s : State} {b : UInt8} {c : Char} (hs : s.Beyond) (h : next s b = .char c) :
    c.toNat = 0 ∨ 0x80 ≤ c.toNat := by
  unfold next at h
  simp only at h
  split at h
  · split at h
    · obtain rfl := Step.char.inj h
      simp only [State.Beyond] at hs
      have := toNat_ofNat_cases (s.value * 0x40 + (b.toNat - 0x80))
      omega
    · cases h
  · cases h

theorem next_ascii {s : State} {b : UInt8} (hs : s.Beyond) (hb : b.toNat < 0x80) :
    next s b = .reject := by
  simp only [State.Beyond] at hs
  unfold next
  exact if_neg (by omega)

theorem first_ascii {b : UInt8} (hb : b.toNat < 0x80) : first b = .char (Char.ofNat b.toNat) := by
  simp [first, hb]

theorem toNat_of_first {b : UInt8} {c : Char} (h : first b = .char c) :
    c.toNat = b.toNat ∨ c.toNat = 0 := by
  unfold first at h
  simp only at h
  repeat' split at h
  all_goals cases h
  exact toNat_ofNat_cases b.toNat

def Ready (pending : Option State) : Prop := ∀ s ∈ pending, s.Beyond

theorem ready_none : Ready none := fun _ h => nomatch h

theorem lenientFirst_ready (b : UInt8) : Ready (lenientFirst b).2 := by
  unfold lenientFirst
  split
  · exact ready_none
  · next s h =>
    rintro _ ⟨⟩
    exact beyond_of_first h
  · exact ready_none

theorem lenientStep_ready {pending : Option State} (h : Ready pending) (b : UInt8) :
    Ready (lenientStep pending b).2 := by
  cases pending with
  | none => exact lenientFirst_ready b
  | some s =>
    simp only [lenientStep]
    split
    · exact ready_none
    · next t hnext =>
      rintro _ ⟨⟩
      exact beyond_of_next (h s rfl) hnext
    · exact lenientFirst_ready b

theorem lenientFrom_ascii {pending : Option State} (h : Ready pending) {b : UInt8}
    (hb : b.toNat < 0x80) (rest : List UInt8) :
    lenientFrom pending (b :: rest) =
      lenientFrom pending [] ++ Char.ofNat b.toNat :: lenientFrom none rest := by
  cases pending with
  | none => simp [lenientFrom, lenientStep, lenientFirst, first_ascii hb]
  | some s => simp [lenientFrom, lenientStep, lenientFirst, first_ascii hb, next_ascii (h s rfl) hb]

theorem lenientFrom_append_ascii {pending : Option State} (h : Ready pending) (xs : List UInt8)
    {b : UInt8} (hb : b.toNat < 0x80) (rest : List UInt8) :
    lenientFrom pending (xs ++ b :: rest) =
      lenientFrom pending xs ++ Char.ofNat b.toNat :: lenientFrom none rest := by
  induction xs generalizing pending with
  | nil => exact lenientFrom_ascii h hb rest
  | cons x xs ih =>
    rw [List.cons_append, lenientFrom, ih (lenientStep_ready h x), lenientFrom, List.append_assoc]

theorem decodeLenient_append_ascii (xs : List UInt8) {b : UInt8} (hb : b.toNat < 0x80)
    (rest : List UInt8) : decodeLenient (xs ++ b :: rest) =
      decodeLenient xs ++ Char.ofNat b.toNat :: decodeLenient rest :=
  lenientFrom_append_ascii ready_none xs hb rest

theorem snd_of_lenientStep_nil {pending : Option State} {b : UInt8}
    (h : (lenientStep pending b).1 = []) : (lenientStep pending b).2 ≠ none := by
  have hfirst : (lenientFirst b).1 = [] → (lenientFirst b).2 ≠ none := by
    unfold lenientFirst
    split <;> simp
  cases pending with
  | none => exact hfirst h
  | some s =>
    simp only [lenientStep] at h ⊢
    split at h <;> simp_all

theorem eq_nil_of_lenientFrom {pending : Option State} {xs : List UInt8}
    (h : lenientFrom pending xs = []) : pending = none ∧ xs = [] := by
  induction xs generalizing pending with
  | nil => cases pending <;> simp_all [lenientFrom]
  | cons x xs ih =>
    obtain ⟨hstep, hrest⟩ := List.append_eq_nil_iff.mp h
    exact absurd (ih hrest).1 (snd_of_lenientStep_nil hstep)

@[simp] theorem decodeLenient_eq_nil_iff {xs : List UInt8} : decodeLenient xs = [] ↔ xs = [] :=
  ⟨fun h => (eq_nil_of_lenientFrom h).2, fun h => h ▸ rfl⟩

section

variable {c : Char} (h0 : 0 < c.toNat) (hc : c.toNat < 0x80)

include h0 hc

theorem eq_of_mem_lenientStep {pending : Option State} (h : Ready pending) {b : UInt8}
    (hm : c ∈ (lenientStep pending b).1) : b = UInt8.ofNat c.toNat := by
  have hreplacement : c ≠ replacement := by
    rintro rfl
    exact absurd hc (by decide)
  have hfirst : c ∈ (lenientFirst b).1 → b = UInt8.ofNat c.toNat := by
    unfold lenientFirst
    split
    · next d hd =>
      intro hm
      obtain rfl := List.mem_singleton.mp hm
      unfold first at hd
      simp only at hd
      repeat' split at hd
      all_goals cases hd
      have := toNat_ofNat_cases b.toNat
      have heq : (Char.ofNat b.toNat).toNat = b.toNat := by omega
      rw [heq, UInt8.ofNat_toNat]
    · exact fun hm => nomatch hm
    · exact fun hm => absurd (List.mem_singleton.mp hm) hreplacement
  cases pending with
  | none => exact hfirst hm
  | some s =>
    simp only [lenientStep] at hm
    split at hm
    · next d hd =>
      obtain rfl := List.mem_singleton.mp hm
      have := toNat_of_next (h s rfl) hd
      omega
    · exact nomatch hm
    · exact hfirst ((List.mem_cons.mp hm).resolve_left hreplacement)

theorem mem_of_mem_lenientFrom {pending : Option State} (h : Ready pending) {xs : List UInt8}
    (hm : c ∈ lenientFrom pending xs) : UInt8.ofNat c.toNat ∈ xs := by
  induction xs generalizing pending with
  | nil =>
    unfold lenientFrom at hm
    split at hm
    · obtain rfl := List.mem_singleton.mp hm
      exact absurd hc (by decide)
    · exact nomatch hm
  | cons x xs ih =>
    rcases List.mem_append.mp hm with hm | hm
    · exact List.mem_cons.mpr (.inl (eq_of_mem_lenientStep h0 hc h hm).symm)
    · exact List.mem_cons_of_mem _ (ih (lenientStep_ready h x) hm)

theorem mem_of_mem_decodeLenient {xs : List UInt8} (hm : c ∈ decodeLenient xs) :
    UInt8.ofNat c.toNat ∈ xs :=
  mem_of_mem_lenientFrom h0 hc ready_none hm

theorem decodeLenient_eq_singleton_iff {xs : List UInt8} :
    decodeLenient xs = [c] ↔ xs = [UInt8.ofNat c.toNat] := by
  have hb : (UInt8.ofNat c.toNat).toNat = c.toNat := by
    rw [UInt8.toNat_ofNat']
    omega
  have hread (before rest : List UInt8) := decodeLenient_append_ascii before (hb ▸ hc) rest
  rw [hb, Char.ofNat_toNat] at hread
  constructor
  · intro h
    have hm : c ∈ decodeLenient xs := h ▸ List.mem_singleton_self c
    obtain ⟨before, rest, rfl⟩ := List.append_of_mem (mem_of_mem_decodeLenient h0 hc hm)
    rw [hread] at h
    have hlength := congrArg List.length h
    simp only [List.length_append, List.length_cons, List.length_nil] at hlength
    have hbefore : decodeLenient before = [] := List.eq_nil_of_length_eq_zero (by omega)
    have hrest : decodeLenient rest = [] := List.eq_nil_of_length_eq_zero (by omega)
    rw [decodeLenient_eq_nil_iff.mp hbefore, decodeLenient_eq_nil_iff.mp hrest]
    rfl
  · rintro rfl
    exact hread [] []

end

-- ---------------------------------------------------------------------------
-- What is read strictly
-- ---------------------------------------------------------------------------

theorem eq_nil_of_decodeFrom {index : Nat} {pending : Option State} {bs : List UInt8}
    (h : decodeFrom index pending bs = .ok []) : pending = none ∧ bs = [] := by
  induction bs generalizing index pending with
  | nil => cases pending <;> simp_all [decodeFrom]
  | cons b rest ih =>
    have hchar (c : Char) (answer : Except Fault (List Char)) : answer.map (c :: ·) ≠ .ok [] := by
      cases answer <;> simp [Except.map]
    cases pending with
    | none =>
      simp only [decodeFrom] at h
      split at h
      · exact absurd h (hchar _ _)
      · exact nomatch (ih h).1
      · cases h
    | some s =>
      simp only [decodeFrom] at h
      split at h
      · exact absurd h (hchar _ _)
      · exact nomatch (ih h).1
      · cases h

theorem decode_eq_nil_iff {bs : List UInt8} : decode bs = .ok [] ↔ bs = [] :=
  ⟨fun h => (eq_nil_of_decodeFrom h).2, fun h => h ▸ rfl⟩

def isPlain (n : Nat) : Bool := 0 < n && n < 0x80

def plainBytes (bs : List UInt8) : Nat := bs.countP (isPlain ·.toNat)

def plainChars (cs : List Char) : Nat := cs.countP (isPlain ·.toNat)

theorem plainBytes_append (a b : List UInt8) : plainBytes (a ++ b) = plainBytes a + plainBytes b :=
  List.countP_append

theorem plainChars_append (a b : List Char) : plainChars (a ++ b) = plainChars a + plainChars b :=
  List.countP_append

theorem plainBytes_le_length (bs : List UInt8) : plainBytes bs ≤ bs.length := List.countP_le_length

theorem plainBytes_encodeChar (c : Char) : plainBytes (encodeChar c) = plainChars [c] := by
  by_cases h : c.toNat < 0x80
  · have hbyte : c.toNat % 256 = c.toNat := by omega
    simp [encodeChar_of_lt h, plainBytes, plainChars, List.countP_singleton, hbyte]
  · have hchar : plainChars [c] = 0 := by simp [plainChars, isPlain]; omega
    rw [hchar]
    refine List.countP_eq_zero.mpr fun b hb hplain => h ?_
    simp only [isPlain, Bool.and_eq_true, decide_eq_true_eq] at hplain
    rw [toNat_eq_of_mem_encodeChar hb hplain.2]
    exact hplain.2

@[simp] theorem plainBytes_encode (cs : List Char) : plainBytes (encode cs) = plainChars cs := by
  induction cs with
  | nil => rfl
  | cons c cs ih =>
    calc plainBytes (encodeChar c ++ encode cs)
      _ = plainChars [c] + plainChars cs := by rw [plainBytes_append, plainBytes_encodeChar, ih]
      _ = plainChars (c :: cs) := (plainChars_append [c] cs).symm

theorem plainChars_le_of_decodeFrom {index : Nat} {pending : Option State} {bs : List UInt8}
    {cs : List Char} (hready : Ready pending) (h : decodeFrom index pending bs = .ok cs) :
    plainChars cs ≤ plainBytes bs := by
  induction bs generalizing index pending cs with
  | nil =>
    cases pending with
    | none => rw [← Except.ok.inj h]; exact Nat.le_refl 0
    | some s => cases h
  | cons b rest ih =>
    have hrest : plainBytes rest ≤ plainBytes (b :: rest) := by simp [plainBytes, List.countP_cons]
    -- a character that was read at `b` is plain only if `b` is
    have hread {c : Char} (hc : isPlain c.toNat = true → isPlain b.toNat = true)
        (h : (decodeFrom (index + 1) none rest).map (c :: ·) = .ok cs) :
        plainChars cs ≤ plainBytes (b :: rest) := by
      obtain ⟨later, hlater, rfl⟩ := Answer.map_eq_ok_iff.mp h
      have hle := ih ready_none hlater
      by_cases hplain : isPlain c.toNat = true
      · simp only [plainChars, plainBytes, List.countP_cons, hplain, hc hplain, if_true] at hle ⊢
        exact Nat.add_le_add_right hle 1
      · have hchars : plainChars (c :: later) = plainChars later :=
          List.countP_cons_of_neg hplain
        exact hchars ▸ Nat.le_trans hle hrest
    cases pending with
    | none =>
      simp only [decodeFrom] at h
      split at h
      · next c hc =>
        refine hread (fun hplain => ?_) h
        rcases toNat_of_first hc with hsame | hzero
        · exact hsame ▸ hplain
        · rw [hzero] at hplain
          cases hplain
      · next s hs =>
        refine Nat.le_trans (ih ?_ h) hrest
        rintro _ ⟨⟩
        exact beyond_of_first hs
      · cases h
    | some s =>
      simp only [decodeFrom] at h
      split at h
      · next c hc =>
        refine hread (fun hplain => ?_) h
        have hbeyond := toNat_of_next (hready s rfl) hc
        simp only [isPlain, Bool.and_eq_true, decide_eq_true_eq] at hplain
        omega
      · next t ht =>
        refine Nat.le_trans (ih ?_ h) hrest
        rintro _ ⟨⟩
        exact beyond_of_next (hready s rfl) ht
      · cases h

theorem plainChars_le_of_decode {bs : List UInt8} {cs : List Char} (h : decode bs = .ok cs) :
    plainChars cs ≤ plainBytes bs :=
  plainChars_le_of_decodeFrom ready_none h

end Mailroom.Text.Utf8
