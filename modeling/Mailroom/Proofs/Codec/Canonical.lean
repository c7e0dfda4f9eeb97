import Mathlib.Algebra.Group.Nat.Defs
import Mailroom.Mime.Error
import Mailroom.Proofs.Codec.Base64

/-!
# Canonical base64

RFC 4648 says what the encoding of some bytes is in terms of their bits: filled up with zeros, cut
into groups of six, written as symbols, and padded to whole groups of four. There is one such text
for any bytes (`canonical_iff`), and it is read with ASCII white space strewn into it and in no
other way (`decodeBase64_eq_ok_iff`).
-/

namespace Mailroom.Codec.Base64

-- ---------------------------------------------------------------------------
-- Bits
-- ---------------------------------------------------------------------------

/-- The lowest bits of a number, highest first. -/
def bits : Nat → Nat → List Bool
  | 0, _ => []
  | width + 1, n => n.testBit width :: bits width n

@[simp] theorem length_bits (width n : Nat) : (bits width n).length = width := by
  induction width with
  | zero => rfl
  | succ width ih => simp [bits, ih]

theorem bits_add (high low n : Nat) :
    bits (high + low) n = bits high (n / 2 ^ low) ++ bits low n := by
  induction high with
  | zero => simp [bits]
  | succ high ih => simp [Nat.succ_add, bits, ih, Nat.testBit_div_two_pow]

theorem bits_congr {width m n : Nat} (h : ∀ i < width, m.testBit i = n.testBit i) :
    bits width m = bits width n := by
  induction width with
  | zero => rfl
  | succ width ih =>
    rw [bits, bits, h width (Nat.lt_succ_self width), ih fun i hi => h i (Nat.lt_succ_of_lt hi)]

theorem bits_mod (width n : Nat) : bits width (n % 2 ^ width) = bits width n := by
  refine bits_congr fun i hi => ?_
  simp [Nat.testBit_mod_two_pow, hi]

theorem bits_eq_of_mod {width m n : Nat} (h : m % 2 ^ width = n % 2 ^ width) :
    bits width m = bits width n := by
  rw [← bits_mod, h, bits_mod]

theorem bits_mul_two_pow (width n : Nat) :
    bits width (n * 2 ^ width) = List.replicate width false := by
  rw [← bits_mod, Nat.mul_mod_left]
  induction width with
  | zero => rfl
  | succ width ih => rw [bits, Nat.zero_testBit, ih, List.replicate_succ]

theorem testBit_eq_of_bits_eq {width m n : Nat} (h : bits width m = bits width n) :
    ∀ i < width, m.testBit i = n.testBit i := by
  induction width with
  | zero =>
    intro i hi
    exact absurd hi (Nat.not_lt_zero i)
  | succ width ih =>
    obtain ⟨hfirst, hrest⟩ := List.cons.inj h
    intro i hi
    rcases Nat.lt_succ_iff_lt_or_eq.mp hi with hi | rfl
    · exact ih hrest i hi
    · exact hfirst

theorem eq_of_bits_eq {width m n : Nat} (hm : m < 2 ^ width) (hn : n < 2 ^ width)
    (h : bits width m = bits width n) : m = n := by
  refine Nat.eq_of_testBit_eq fun i => ?_
  by_cases hi : i < width
  · exact testBit_eq_of_bits_eq h i hi
  · have hpow : 2 ^ width ≤ 2 ^ i := Nat.pow_le_pow_right Nat.two_pos (Nat.not_lt.mp hi)
    rw [Nat.testBit_lt_two_pow (Nat.lt_of_lt_of_le hm hpow),
      Nat.testBit_lt_two_pow (Nat.lt_of_lt_of_le hn hpow)]

-- ---------------------------------------------------------------------------
-- The canonical encoding
-- ---------------------------------------------------------------------------

def alphabet : List UInt8 :=
  Text.bytes "ABCDEFGHIJKLMNOPQRSTUVWXYZabcdefghijklmnopqrstuvwxyz0123456789+/"

theorem length_alphabet : alphabet.length = 64 := by decide +kernel

abbrev Sextet := Fin alphabet.length

def Sextet.bits (v : Sextet) : List Bool := Base64.bits 6 v.val

def byteBits (b : UInt8) : List Bool := bits 8 b.toNat

/-- The text is the encoding of the bytes. Their bits are filled up with as few zeros as make groups
of six, each group is a symbol, and as little padding follows as makes groups of four symbols. -/
inductive Canonical (bytes : List UInt8) : List UInt8 → Prop
  | intro {values : List Sextet} {fill pads : Nat}
      (same : values.flatMap Sextet.bits = bytes.flatMap byteBits ++ List.replicate fill false)
      (least : fill < 6) (whole : (values.length + pads) % 4 = 0) (few : pads < 4) :
      Canonical bytes (values.map alphabet.get ++ List.replicate pads pad)

theorem symbol_eq_get : ∀ v : Sextet, symbol v = alphabet.get v := by decide +kernel

theorem Sextet.length_bits (v : Sextet) : v.bits.length = 6 := Base64.length_bits 6 v.val

theorem Sextet.lt (v : Sextet) : v.val < 64 := Nat.lt_of_lt_of_eq v.isLt length_alphabet

theorem Sextet.bits_injective {u v : Sextet} (h : u.bits = v.bits) : u = v := by
  have hu : u.val < 2 ^ 6 := u.lt
  have hv : v.val < 2 ^ 6 := v.lt
  exact Fin.ext (eq_of_bits_eq hu hv h)

theorem length_flatMap_bits (values : List Sextet) :
    (values.flatMap Sextet.bits).length = 6 * values.length := by
  induction values with
  | nil => rfl
  | cons v values ih =>
    rw [List.flatMap_cons, List.length_append, ih, v.length_bits, List.length_cons]
    omega

theorem length_flatMap_byteBits (bytes : List UInt8) :
    (bytes.flatMap byteBits).length = 8 * bytes.length := by
  induction bytes with
  | nil => rfl
  | cons b bytes ih =>
    rw [List.flatMap_cons, List.length_append, ih, byteBits, length_bits, List.length_cons]
    omega

theorem flatMap_bits_injective {u v : List Sextet}
    (h : u.flatMap Sextet.bits = v.flatMap Sextet.bits) : u = v := by
  have hlength := congrArg List.length h
  simp only [length_flatMap_bits] at hlength
  induction u generalizing v with
  | nil =>
    cases v with
    | nil => rfl
    | cons => simp at hlength
  | cons x u ih =>
    cases v with
    | nil => simp at hlength
    | cons y v =>
      obtain ⟨hfirst, hrest⟩ := List.append_inj h (x.length_bits.trans y.length_bits.symm)
      rw [Sextet.bits_injective hfirst, ih hrest (by simp at hlength; omega)]

theorem Canonical.unique {bytes a b : List UInt8} (ha : Canonical bytes a) (hb : Canonical bytes b) :
    a = b := by
  obtain @⟨u, fill, pads, hu, hfill, hwhole, hfew⟩ := ha
  obtain @⟨v, fill', pads', hv, hfill', hwhole', hfew'⟩ := hb
  -- the number of bits leaves no choice in how many zeros are filled up
  have hbits := congrArg List.length hu
  have hbits' := congrArg List.length hv
  simp only [length_flatMap_bits, length_flatMap_byteBits, List.length_append,
    List.length_replicate] at hbits hbits'
  obtain rfl : fill = fill' := by omega
  obtain rfl := flatMap_bits_injective (hu.trans hv.symm)
  obtain rfl : pads = pads' := by omega
  rfl

theorem exists_sextets {ns : List Nat} (h : ∀ n ∈ ns, n < 64) : ∃ values : List Sextet,
    values.map alphabet.get = ns.map symbol ∧ values.flatMap Sextet.bits = ns.flatMap (bits 6) ∧
      values.length = ns.length := by
  induction ns with
  | nil => exact ⟨[], rfl, rfl, rfl⟩
  | cons n ns ih =>
    obtain ⟨hn, hns⟩ := List.forall_mem_cons.mp h
    obtain ⟨values, hsymbols, hbits, hlength⟩ := ih hns
    have hlt : n < alphabet.length := Nat.lt_of_lt_of_eq hn length_alphabet.symm
    refine ⟨⟨n, hlt⟩ :: values, ?_, ?_, ?_⟩
    · rw [List.map_cons, List.map_cons, hsymbols, ← symbol_eq_get]
    · rw [List.flatMap_cons, List.flatMap_cons, hbits, Sextet.bits]
    · rw [List.length_cons, List.length_cons, hlength]

theorem Canonical.last {bytes : List UInt8} (ns : List Nat) (fill pads : Nat)
    (hns : ∀ n ∈ ns, n < 64)
    (same : ns.flatMap (bits 6) = bytes.flatMap byteBits ++ List.replicate fill false)
    (least : fill < 6) (whole : (ns.length + pads) % 4 = 0) (few : pads < 4) :
    Canonical bytes (ns.map symbol ++ List.replicate pads pad) := by
  obtain ⟨values, hsymbols, hbits, hlength⟩ := exists_sextets hns
  rw [← hsymbols]
  exact .intro (hbits.trans same) least (hlength ▸ whole) few

theorem Canonical.append {rest text : List UInt8} (h : Canonical rest text) (front : List UInt8)
    (ns : List Nat) (hns : ∀ n ∈ ns, n < 64) (same : ns.flatMap (bits 6) = front.flatMap byteBits)
    (hgroups : ns.length % 4 = 0) : Canonical (front ++ rest) (ns.map symbol ++ text) := by
  obtain @⟨values, fill, pads, hsame, hleast, hwhole, hfew⟩ := h
  obtain ⟨first, hsymbols, hbits, hlength⟩ := exists_sextets hns
  rw [← hsymbols, ← List.append_assoc, ← List.map_append]
  refine .intro ?_ hleast ?_ hfew
  · rw [List.flatMap_append, List.flatMap_append, hbits, same, hsame, List.append_assoc]
  · rw [List.length_append, hlength]
    omega

theorem bits_one (a : UInt8) :
    bits 6 (a.toNat / 4) ++ bits 6 (a.toNat % 4 * 16) = byteBits a ++ List.replicate 4 false := by
  have ha := a.toNat_lt
  generalize hn : a.toNat * 2 ^ 4 = n
  have hbyte : byteBits a = bits 8 (n / 2 ^ 4) := bits_eq_of_mod (by omega)
  have hfill : List.replicate 4 false = bits 4 n := hn ▸ (bits_mul_two_pow 4 a.toNat).symm
  have hfirst : bits 6 (a.toNat / 4) = bits 6 (n / 2 ^ 6) := bits_eq_of_mod (by omega)
  have hsecond : bits 6 (a.toNat % 4 * 16) = bits 6 n := bits_eq_of_mod (by omega)
  rw [hfirst, hsecond, hbyte, hfill, ← bits_add, ← bits_add]

theorem bits_two (a b : UInt8) :
    let n := a.toNat * 256 + b.toNat
    bits 6 (n / 1024) ++ (bits 6 (n / 16 % 64) ++ bits 6 (n % 16 * 4)) =
      byteBits a ++ (byteBits b ++ List.replicate 2 false) := by
  have ha := a.toNat_lt
  have hb := b.toNat_lt
  intro n
  generalize hm : n * 2 ^ 2 = m
  have hbyte : byteBits a = bits 8 (m / 2 ^ (8 + 2)) := bits_eq_of_mod (by omega)
  have hbyte' : byteBits b = bits 8 (m / 2 ^ 2) := bits_eq_of_mod (by omega)
  have hfill : List.replicate 2 false = bits 2 m := hm ▸ (bits_mul_two_pow 2 n).symm
  have hfirst : bits 6 (n / 1024) = bits 6 (m / 2 ^ (6 + 6)) := bits_eq_of_mod (by omega)
  have hsecond : bits 6 (n / 16 % 64) = bits 6 (m / 2 ^ 6) := bits_eq_of_mod (by omega)
  have hthird : bits 6 (n % 16 * 4) = bits 6 m := bits_eq_of_mod (by omega)
  rw [hfirst, hsecond, hthird, hbyte, hbyte', hfill, ← bits_add, ← bits_add, ← bits_add, ← bits_add]

theorem bits_three (a b c : UInt8) :
    let n := a.toNat * 65536 + b.toNat * 256 + c.toNat
    bits 6 (n / 262144) ++ (bits 6 (n / 4096 % 64) ++ (bits 6 (n / 64 % 64) ++ bits 6 (n % 64))) =
      byteBits a ++ (byteBits b ++ byteBits c) := by
  have ha := a.toNat_lt
  have hb := b.toNat_lt
  have hc := c.toNat_lt
  intro n
  have hbyte : byteBits a = bits 8 (n / 2 ^ (8 + 8)) := bits_eq_of_mod (by omega)
  have hbyte' : byteBits b = bits 8 (n / 2 ^ 8) := bits_eq_of_mod (by omega)
  have hbyte'' : byteBits c = bits 8 n := bits_eq_of_mod (by omega)
  have hfirst : bits 6 (n / 262144) = bits 6 (n / 2 ^ (6 + (6 + 6))) := rfl
  have hsecond : bits 6 (n / 4096 % 64) = bits 6 (n / 2 ^ (6 + 6)) := bits_mod 6 _
  have hthird : bits 6 (n / 64 % 64) = bits 6 (n / 2 ^ 6) := bits_mod 6 _
  have hfourth : bits 6 (n % 64) = bits 6 n := bits_mod 6 _
  rw [hfirst, hsecond, hthird, hfourth, hbyte, hbyte', hbyte'', ← bits_add, ← bits_add, ← bits_add,
    ← bits_add, ← bits_add]

theorem canonical_encode (bytes : List UInt8) : Canonical bytes (encode bytes) := by
  induction bytes using encode.induct with
  | case1 => exact .last [] 0 0 (by simp) rfl (by simp) (by simp) (by simp)
  | case2 a =>
    have ha := a.toNat_lt
    refine .last [a.toNat / 4, a.toNat % 4 * 16] 4 2 ?_ ?_ (by simp) (by simp) (by simp)
    · simp; omega
    · simpa using bits_one a
  | case3 a b =>
    have ha := a.toNat_lt
    have hb := b.toNat_lt
    generalize hn : a.toNat * 256 + b.toNat = n
    have hbits := bits_two a b
    simp only [encode, hn] at hbits ⊢
    refine .last [n / 1024, n / 16 % 64, n % 16 * 4] 2 1 ?_ ?_ (by simp) (by simp) (by simp)
    · simp; omega
    · simpa using hbits
  | case4 a b c rest ih =>
    have ha := a.toNat_lt
    have hb := b.toNat_lt
    have hc := c.toNat_lt
    have hbits := bits_three a b c
    simp only [encode]
    generalize hn : a.toNat * 65536 + b.toNat * 256 + c.toNat = n at hbits ⊢
    refine ih.append [a, b, c] [n / 262144, n / 4096 % 64, n / 64 % 64, n % 64] ?_ ?_ (by simp)
    · simp; omega
    · simpa using hbits

theorem canonical_iff {bytes text : List UInt8} : Canonical bytes text ↔ text = encode bytes := by
  constructor
  · intro h
    exact h.unique (canonical_encode bytes)
  · rintro rfl
    exact canonical_encode bytes

-- ---------------------------------------------------------------------------
-- White space
-- ---------------------------------------------------------------------------

/-- The white space of ASCII: space, tab, line feed, form feed, carriage return. -/
def whiteSpace : List UInt8 := Text.bytes " \t\n\x0c\r"

theorem isBlankByte_iff {b : UInt8} : Text.isBlankByte b = true ↔ b ∈ whiteSpace := by
  have h : whiteSpace = [0x20, 0x09, 0x0a, 0x0c, 0x0d] := by decide +kernel
  simp [h, Text.isBlankByte, or_assoc]

theorem filter_not_isBlankByte (text : List UInt8) :
    text.filter (!Text.isBlankByte ·) = text.filter (· ∉ whiteSpace) := by
  refine List.filter_congr fun b _ => ?_
  simp [← isBlankByte_iff]

end Mailroom.Codec.Base64

namespace Mailroom.Mime

/-- What is read is what remains, without its white space, as the encoding of some bytes. -/
theorem decodeBase64_eq_ok_iff {text bytes : List UInt8} : decodeBase64 text = .ok bytes ↔
    Codec.Base64.Canonical bytes (text.filter (· ∉ Codec.Base64.whiteSpace)) := by
  rw [decodeBase64, Answer.mapError_eq_ok_iff, Codec.Base64.decode_eq_ok_iff,
    Codec.Base64.filter_not_isBlankByte, Codec.Base64.canonical_iff]

end Mailroom.Mime
