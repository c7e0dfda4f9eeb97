import Mailroom.Codec.Base64
import Mailroom.Proofs.Answer
import Mailroom.Proofs.Text.Utf8

/-!
# Base64 is read back

The canonical form of some bytes decodes to them, also with ASCII blanks strewn into it, and nothing
else does. It is made of symbols and padding, so it holds neither blanks nor hyphens.
-/

namespace Mailroom.Codec.Base64

theorem value?_symbol : ∀ n < 64, value? (symbol n) = some n := by decide

theorem symbol_ne_pad : ∀ n < 64, symbol n ≠ pad := by decide

theorem valueAt_symbol {n : Nat} (start : Nat) (h : n < 64) : valueAt start (symbol n) = .ok n := by
  simp [valueAt, value?_symbol n h]

theorem lastGroup_symbol {n : Nat} (start : Nat) (symbols : List (UInt8 × Nat)) (rest : List UInt8)
    (h : n < 64) : lastGroup start symbols 0 (symbol n :: rest) =
      lastGroup start (symbols ++ [(symbol n, n)]) 0 rest := by
  simp [lastGroup, symbol_ne_pad n h, valueAt_symbol _ h, bind, Except.bind]

theorem decodeFrom_group {w x y z : Nat} {bytes tail : List UInt8} (start : Nat) (hw : w < 64)
    (hx : x < 64) (hy : y < 64) (hz : z < 64) (hne : tail ≠ [])
    (h : decodeFrom (start + 4) tail = .ok bytes) :
    decodeFrom start (symbol w :: symbol x :: symbol y :: symbol z :: tail) =
      .ok (group w x y z ++ bytes) := by
  obtain ⟨e, rest, rfl⟩ := List.exists_cons_of_ne_nil hne
  simp [decodeFrom, valueAt_symbol _ hw, valueAt_symbol _ hx, valueAt_symbol _ hy,
    valueAt_symbol _ hz, h, bind, Except.bind, pure, Except.pure]

theorem encode_ne_nil {bytes : List UInt8} (h : bytes ≠ []) : encode bytes ≠ [] := by
  fun_cases encode bytes <;> simp_all

theorem group_digits (a b c : UInt8) :
    let n := a.toNat * 65536 + b.toNat * 256 + c.toNat
    group (n / 262144) (n / 4096 % 64) (n / 64 % 64) (n % 64) = [a, b, c] := by
  have ha := a.toNat_lt
  have hb := b.toNat_lt
  have hc := c.toNat_lt
  intro n
  have e1 : n / 262144 * 4 + n / 4096 % 64 / 16 = a.toNat := by omega
  have e2 : n / 4096 % 64 % 16 * 16 + n / 64 % 64 / 4 = b.toNat := by omega
  have e3 : n / 64 % 64 % 4 * 64 + n % 64 = c.toNat := by omega
  simp only [group, e1, e2, e3, UInt8.ofNat_toNat]

theorem lastGroup_pad (start : Nat) (symbols : List (UInt8 × Nat)) (pads : Nat) (rest : List UInt8)
    (h : 2 ≤ symbols.length) : lastGroup start symbols pads (pad :: rest) =
      lastGroup start symbols (pads + 1) rest := by
  have : ¬ symbols.length + pads < 2 := by omega
  simp [lastGroup, this]

theorem closeGroup_one {w x : Nat} (start : Nat) (b c : UInt8) (h : x % 16 = 0) :
    closeGroup start [(b, w), (c, x)] 2 = .ok [UInt8.ofNat (w * 4 + x / 16)] := by
  simp [closeGroup, h]

theorem closeGroup_two {w x y : Nat} (start : Nat) (b c d : UInt8) (h : y % 4 = 0) :
    closeGroup start [(b, w), (c, x), (d, y)] 1 =
      .ok [UInt8.ofNat (w * 4 + x / 16), UInt8.ofNat (x % 16 * 16 + y / 4)] := by
  simp [closeGroup, h]

theorem closeGroup_three (start w x y z : Nat) (b c d e : UInt8) :
    closeGroup start [(b, w), (c, x), (d, y), (e, z)] 0 = .ok (group w x y z) := by
  simp [closeGroup]

theorem decodeFrom_one (start : Nat) (a : UInt8) : decodeFrom start (encode [a]) = .ok [a] := by
  have ha := a.toNat_lt
  have hw : a.toNat / 4 < 64 := by omega
  have hx : a.toNat % 4 * 16 < 64 := by omega
  have e : a.toNat / 4 * 4 + a.toNat % 4 * 16 / 16 = a.toNat := by omega
  simp only [encode, decodeFrom, lastGroup_symbol _ _ _ hw, lastGroup_symbol _ _ _ hx,
    List.nil_append, List.singleton_append]
  rw [lastGroup_pad _ _ _ _ (by simp), lastGroup_pad _ _ _ _ (by simp)]
  refine (closeGroup_one start _ _ (by omega)).trans ?_
  rw [e, UInt8.ofNat_toNat]

theorem decodeFrom_two (start : Nat) (a b : UInt8) :
    decodeFrom start (encode [a, b]) = .ok [a, b] := by
  have ha := a.toNat_lt
  have hb := b.toNat_lt
  simp only [encode]
  generalize hn : a.toNat * 256 + b.toNat = n
  have hw : n / 1024 < 64 := by omega
  have hx : n / 16 % 64 < 64 := by omega
  have hy : n % 16 * 4 < 64 := by omega
  have e1 : n / 1024 * 4 + n / 16 % 64 / 16 = a.toNat := by omega
  have e2 : n / 16 % 64 % 16 * 16 + n % 16 * 4 / 4 = b.toNat := by omega
  simp only [decodeFrom, lastGroup_symbol _ _ _ hw, lastGroup_symbol _ _ _ hx,
    lastGroup_symbol _ _ _ hy, List.nil_append, List.cons_append]
  rw [lastGroup_pad _ _ _ _ (by simp)]
  refine (closeGroup_two start _ _ _ (by omega)).trans ?_
  rw [e1, e2, UInt8.ofNat_toNat, UInt8.ofNat_toNat]

theorem decodeFrom_encode (start : Nat) (bytes : List UInt8) :
    decodeFrom start (encode bytes) = .ok bytes := by
  induction bytes using encode.induct generalizing start with
  | case1 => rfl
  | case2 a => exact decodeFrom_one start a
  | case3 a b => exact decodeFrom_two start a b
  | case4 a b c rest ih =>
    have ha := a.toNat_lt
    have hb := b.toNat_lt
    have hc := c.toNat_lt
    have hg := group_digits a b c
    simp only [encode]
    generalize hn : a.toNat * 65536 + b.toNat * 256 + c.toNat = n at hg ⊢
    have hw : n / 262144 < 64 := by omega
    have hx : n / 4096 % 64 < 64 := by omega
    have hy : n / 64 % 64 < 64 := by omega
    have hz : n % 64 < 64 := by omega
    by_cases hr : rest = []
    · subst hr
      -- the group is the last one, and the symbols go through its reader
      simp only [encode, decodeFrom, lastGroup_symbol _ _ _ hw, lastGroup_symbol _ _ _ hx,
        lastGroup_symbol _ _ _ hy, lastGroup_symbol _ _ _ hz, List.nil_append, List.cons_append]
      exact (closeGroup_three start _ _ _ _ _ _ _ _).trans (congrArg Except.ok hg)
    · rw [decodeFrom_group start hw hx hy hz (encode_ne_nil hr) (ih (start + 4)), hg]
      rfl

theorem length_encode (bytes : List UInt8) : (encode bytes).length % 4 = 0 := by
  induction bytes using encode.induct with
  | case1 => rfl
  | case2 a => simp [encode]
  | case3 a b => simp [encode]
  | case4 a b c rest ih =>
    simp only [encode, List.length_cons]
    omega

def isSymbol (b : UInt8) : Bool := b == pad || (value? b).isSome

theorem isSymbol_symbol : ∀ n < 64, isSymbol (symbol n) = true := by decide

theorem isSymbol_of_mem_encode {bytes : List UInt8} {b : UInt8} (h : b ∈ encode bytes) :
    isSymbol b = true := by
  have hpad : isSymbol pad = true := by decide
  induction bytes using encode.induct with
  | case1 => simp [encode] at h
  | case2 a =>
    have ha := a.toNat_lt
    simp only [encode, List.mem_cons, List.not_mem_nil, or_false] at h
    rcases h with rfl | rfl | rfl | rfl
    · exact isSymbol_symbol _ (by omega)
    · exact isSymbol_symbol _ (by omega)
    · exact hpad
    · exact hpad
  | case3 a c =>
    have ha := a.toNat_lt
    have hc := c.toNat_lt
    simp only [encode, List.mem_cons, List.not_mem_nil, or_false] at h
    rcases h with rfl | rfl | rfl | rfl
    · exact isSymbol_symbol _ (by omega)
    · exact isSymbol_symbol _ (by omega)
    · exact isSymbol_symbol _ (by omega)
    · exact hpad
  | case4 a c d rest ih =>
    have ha := a.toNat_lt
    have hc := c.toNat_lt
    have hd := d.toNat_lt
    simp only [encode, List.mem_cons] at h
    rcases h with rfl | rfl | rfl | rfl | h
    · exact isSymbol_symbol _ (by omega)
    · exact isSymbol_symbol _ (by omega)
    · exact isSymbol_symbol _ (by omega)
    · exact isSymbol_symbol _ (by omega)
    · exact ih h

theorem not_isBlankByte_of_isSymbol {b : UInt8} (h : isSymbol b = true) :
    Text.isBlankByte b = false := by
  refine Bool.eq_false_iff.mpr fun hb => ?_
  simp only [Text.isBlankByte, Bool.or_eq_true, beq_iff_eq] at hb
  rcases hb with (((rfl | rfl) | rfl) | rfl) | rfl <;> revert h <;> decide

theorem decode_of_filter {text bytes : List UInt8}
    (h : text.filter (!Text.isBlankByte ·) = encode bytes) : decode text = .ok bytes := by
  have hstray : strayLast? (encode bytes) = none := by
    unfold strayLast?
    have := length_encode bytes
    split
    · simp [this]
    · rfl
  simp only [decode, h, hstray, decodeFrom_encode]

-- ---------------------------------------------------------------------------
-- Only the canonical form is read
-- ---------------------------------------------------------------------------

theorem eq_symbol_of_value? {b : UInt8} {n : Nat} (h : value? b = some n) : n < 64 ∧ b = symbol n :=
  Text.Utf8.forall_byte (p := fun b => ∀ n ∈ value? b, n < 64 ∧ b = symbol n) (by decide +kernel)
    b n h

theorem eq_symbol_of_valueAt {offset n : Nat} {b : UInt8} (h : valueAt offset b = .ok n) :
    n < 64 ∧ b = symbol n := by
  unfold valueAt at h
  split at h
  · next m hm => exact Except.ok.inj h ▸ eq_symbol_of_value? hm
  · cases h

def Valued (symbols : List (UInt8 × Nat)) : Prop := ∀ s ∈ symbols, s.2 < 64 ∧ s.1 = symbol s.2

theorem eq_of_lastGroup {start pads pads' : Nat} {symbols symbols' : List (UInt8 × Nat)}
    {last : List UInt8} (h : lastGroup start symbols pads last = .ok (symbols', pads')) :
    ∃ more, symbols' = symbols ++ more ∧ Valued more ∧ pads ≤ pads' ∧ (0 < pads → more = []) ∧
      last = more.map Prod.fst ++ List.replicate (pads' - pads) pad := by
  induction last generalizing symbols pads with
  | nil =>
    obtain ⟨rfl, rfl⟩ := Prod.mk.inj (Except.ok.inj h)
    exact ⟨[], by simp [Valued]⟩
  | cons b rest ih =>
    rw [lastGroup] at h
    split at h
    · next hb =>
      split at h
      · cases h
      · obtain ⟨more, rfl, -, hle, hnone, rfl⟩ := ih h
        obtain rfl : more = [] := hnone (Nat.succ_pos pads)
        refine ⟨[], rfl, by simp [Valued], by omega, fun _ => rfl, ?_⟩
        have hcount : pads' - pads = pads' - (pads + 1) + 1 := by omega
        rw [hcount, List.replicate_succ, hb]
        rfl
    · split at h
      · cases h
      · next hpads =>
        cases hvalue : valueAt (start + symbols.length) b with
        | error => rw [hvalue] at h; cases h
        | ok n =>
          rw [hvalue] at h
          obtain ⟨more, rfl, hmore, hle, -, rfl⟩ := ih h
          refine ⟨(b, n) :: more, by simp, ?_, hle, fun hpos => absurd hpos hpads, rfl⟩
          exact List.forall_mem_cons.mpr ⟨eq_symbol_of_valueAt hvalue, hmore⟩

theorem encode_group {w x y z : Nat} (hw : w < 64) (hx : x < 64) (hy : y < 64) (hz : z < 64)
    (rest : List UInt8) : encode (group w x y z ++ rest) =
      symbol w :: symbol x :: symbol y :: symbol z :: encode rest := by
  have e1 : (w * 4 + x / 16) % 2 ^ 8 = w * 4 + x / 16 := by omega
  have e2 : (x % 16 * 16 + y / 4) % 2 ^ 8 = x % 16 * 16 + y / 4 := by omega
  have e3 : (y % 4 * 64 + z) % 2 ^ 8 = y % 4 * 64 + z := by omega
  simp only [group, List.cons_append, List.nil_append, encode, UInt8.toNat_ofNat', e1, e2, e3]
  generalize hn : (w * 4 + x / 16) * 65536 + (x % 16 * 16 + y / 4) * 256 + (y % 4 * 64 + z) = n
  have d1 : n / 262144 = w := by omega
  have d2 : n / 4096 % 64 = x := by omega
  have d3 : n / 64 % 64 = y := by omega
  have d4 : n % 64 = z := by omega
  rw [d1, d2, d3, d4]

theorem encode_pair {w x y : Nat} (hw : w < 64) (hx : x < 64) (hy : y < 64) (h : y % 4 = 0) :
    encode [UInt8.ofNat (w * 4 + x / 16), UInt8.ofNat (x % 16 * 16 + y / 4)] =
      [symbol w, symbol x, symbol y, pad] := by
  have e1 : (w * 4 + x / 16) % 2 ^ 8 = w * 4 + x / 16 := by omega
  have e2 : (x % 16 * 16 + y / 4) % 2 ^ 8 = x % 16 * 16 + y / 4 := by omega
  simp only [encode, UInt8.toNat_ofNat', e1, e2]
  generalize hn : (w * 4 + x / 16) * 256 + (x % 16 * 16 + y / 4) = n
  have d1 : n / 1024 = w := by omega
  have d2 : n / 16 % 64 = x := by omega
  have d3 : n % 16 * 4 = y := by omega
  rw [d1, d2, d3]

theorem encode_single {w x : Nat} (hw : w < 64) (hx : x < 64) (h : x % 16 = 0) :
    encode [UInt8.ofNat (w * 4 + x / 16)] = [symbol w, symbol x, pad, pad] := by
  have e1 : (w * 4 + x / 16) % 2 ^ 8 = w * 4 + x / 16 := by omega
  simp only [encode, UInt8.toNat_ofNat', e1]
  have d1 : (w * 4 + x / 16) / 4 = w := by omega
  have d2 : (w * 4 + x / 16) % 4 * 16 = x := by omega
  rw [d1, d2]

theorem eq_encode_of_closeGroup {start pads : Nat} {symbols : List (UInt8 × Nat)}
    {bytes : List UInt8} (h : closeGroup start symbols pads = .ok bytes) (hs : Valued symbols)
    (hshort : symbols.length + pads ≤ 4) :
    symbols.map Prod.fst ++ List.replicate pads pad = encode bytes := by
  unfold closeGroup at h
  split at h
  · cases h
  · split at h
    · cases h
    · next htwo hfour =>
      have hpads : symbols.length + pads = 4 := by omega
      split at h
      · next b w c x =>
        split at h
        · next hx =>
          obtain rfl := Except.ok.inj h
          obtain ⟨⟨hw, rfl⟩, hx', rfl⟩ : (w < 64 ∧ b = symbol w) ∧ x < 64 ∧ c = symbol x := by
            simpa [Valued] using hs
          obtain rfl : pads = 2 := Nat.add_left_cancel hpads
          exact (encode_single hw hx' hx).symm
        · cases h
      · next b w c x d y =>
        split at h
        · next hy =>
          obtain rfl := Except.ok.inj h
          obtain ⟨⟨hw, rfl⟩, ⟨hx, rfl⟩, hy', rfl⟩ :
              (w < 64 ∧ b = symbol w) ∧ (x < 64 ∧ c = symbol x) ∧ y < 64 ∧ d = symbol y := by
            simpa [Valued] using hs
          obtain rfl : pads = 1 := Nat.add_left_cancel hpads
          exact (encode_pair hw hx hy' hy).symm
        · cases h
      · next b w c x d y e z =>
        obtain rfl := Except.ok.inj h
        obtain ⟨⟨hw, rfl⟩, ⟨hx, rfl⟩, ⟨hy, rfl⟩, hz, rfl⟩ :
            (w < 64 ∧ b = symbol w) ∧ (x < 64 ∧ c = symbol x) ∧ (y < 64 ∧ d = symbol y) ∧
              z < 64 ∧ e = symbol z := by
          simpa [Valued] using hs
        obtain rfl : pads = 0 := Nat.add_left_cancel hpads
        exact (encode_group hw hx hy hz []).symm
      · cases h

theorem eq_encode_of_last {start : Nat} {last bytes : List UInt8} (hshort : last.length ≤ 4)
    (h : (do
      let (symbols, pads) ← lastGroup start [] 0 last
      closeGroup start symbols pads) = Except.ok bytes) : last = encode bytes := by
  obtain ⟨⟨symbols, pads⟩, hgroup, hclose⟩ := Answer.bind_eq_ok_iff.mp h
  obtain ⟨more, rfl, hmore, -, -, rfl⟩ := eq_of_lastGroup hgroup
  rw [Nat.sub_zero] at hshort ⊢
  exact eq_encode_of_closeGroup hclose hmore (by simpa using hshort)

theorem eq_encode_of_decodeFrom {start : Nat} {text bytes : List UInt8}
    (h : decodeFrom start text = .ok bytes) : text = encode bytes := by
  fun_induction decodeFrom start text generalizing bytes with
  | case1 => rw [← Except.ok.inj h]; rfl
  | case2 start a b c d e rest ih =>
    simp only [Answer.bind_eq_ok_iff] at h
    obtain ⟨w, hw, x, hx, y, hy, z, hz, more, hmore, h⟩ := h
    obtain rfl := Except.ok.inj h
    obtain ⟨lw, rfl⟩ := eq_symbol_of_valueAt hw
    obtain ⟨lx, rfl⟩ := eq_symbol_of_valueAt hx
    obtain ⟨ly, rfl⟩ := eq_symbol_of_valueAt hy
    obtain ⟨lz, rfl⟩ := eq_symbol_of_valueAt hz
    rw [encode_group lw lx ly lz, ← ih hmore]
  | case3 start last _ hlong =>
    refine eq_encode_of_last ?_ h
    match last, hlong with
    | [], _ | [_], _ | [_, _], _ | [_, _, _], _ | [_, _, _, _], _ => simp
    | a :: b :: c :: d :: e :: rest, hlong => exact (hlong a b c d e rest rfl).elim

theorem filter_of_decode {text bytes : List UInt8} (h : decode text = .ok bytes) :
    text.filter (!Text.isBlankByte ·) = encode bytes := by
  simp only [decode] at h
  split at h
  · cases h
  · exact eq_encode_of_decodeFrom h

theorem decode_eq_ok_iff {text bytes : List UInt8} :
    decode text = .ok bytes ↔ text.filter (!Text.isBlankByte ·) = encode bytes :=
  ⟨filter_of_decode, decode_of_filter⟩

theorem length_le_length_encode (bytes : List UInt8) : bytes.length ≤ (encode bytes).length := by
  induction bytes using encode.induct with
  | case1 => exact Nat.le_refl 0
  | case2 a => simp [encode]
  | case3 a b => simp [encode]
  | case4 a b c rest ih =>
    simp only [encode, List.length_cons]
    omega

theorem plainBytes_le_of_decode {text bytes : List UInt8} (h : decode text = .ok bytes) :
    Text.Utf8.plainBytes bytes ≤ Text.Utf8.plainBytes text := by
  have hsymbol (b : UInt8) (hb : isSymbol b = true) : Text.Utf8.isPlain b.toNat = true :=
    Text.Utf8.forall_byte (p := fun b => isSymbol b = true → Text.Utf8.isPlain b.toNat = true)
      (by decide +kernel) b hb
  have hplain : Text.Utf8.plainBytes (encode bytes) = (encode bytes).length :=
    List.countP_eq_length.mpr fun b hb => hsymbol b (isSymbol_of_mem_encode hb)
  calc Text.Utf8.plainBytes bytes
    _ ≤ bytes.length := Text.Utf8.plainBytes_le_length bytes
    _ ≤ (encode bytes).length := length_le_length_encode bytes
    _ = Text.Utf8.plainBytes (text.filter (!Text.isBlankByte ·)) := by
      rw [decode_eq_ok_iff.mp h, hplain]
    _ ≤ Text.Utf8.plainBytes text := List.filter_sublist.countP_le

end Mailroom.Codec.Base64
