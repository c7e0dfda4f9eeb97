import Mailroom.Json.Reader
import Mailroom.Proofs.Json.Value

/-!
# Values as texts and back

The text of a value is read as the document of this value, whatever stands behind it, and as the
value itself. Numbers have to be integers of 64 bits, names distinct, and containers not too deep.
-/

namespace Mailroom.Json

-- ---------------------------------------------------------------------------
-- Strings
-- ---------------------------------------------------------------------------

namespace Reader

theorem value?_digit : ∀ n < 16, Codec.Hex.value? (Codec.Hex.digit n) = some n := by decide

theorem codeUnit_digits {n : Nat} (h : n < 256) (rest : List Char) :
    codeUnit ('0' :: '0' :: Codec.Hex.digit (n / 16) :: Codec.Hex.digit (n % 16) :: rest) =
      .ok (n, rest) := by
  have hzero : Codec.Hex.value? '0' = some 0 := by decide
  have hsame : ((0 * 16 + 0) * 16 + n / 16) * 16 + n % 16 = n := by omega
  simp only [codeUnit, hzero, value?_digit (n / 16) (by omega), value?_digit (n % 16) (by omega),
    hsame]

theorem scanString_escape (c : Char) (fuel : Nat) (done rest : List Char) :
    scanString (fuel + 1) done none false (escape c ++ rest) =
      scanString fuel (c :: done) none false rest := by
  unfold escape
  -- Seven characters have an escape of their own.
  iterate 7
    split
    · next h => subst h; rfl
  split
  · next hcontrol =>
    have hunit := codeUnit_digits (n := c.toNat) (by omega) rest
    have hhigh : ¬ (0xd800 ≤ c.toNat ∧ c.toNat ≤ 0xdbff) := by omega
    have hlow : ¬ (0xdc00 ≤ c.toNat ∧ c.toNat ≤ 0xdfff) := by omega
    simp [scanString, hunit, hhigh, hlow]
  · next hquote hslash _ _ _ _ _ hcontrol =>
    simp [scanString, hquote, hslash, hcontrol]

theorem scanString_flatMap_escape (cs : List Char) {fuel : Nat} (done rest : List Char)
    (hfuel : (cs.flatMap escape).length < fuel) :
    scanString fuel done none false (cs.flatMap escape ++ '"' :: rest) =
      .text (String.ofList (done.reverse ++ cs)) rest := by
  induction cs generalizing fuel done with
  | nil =>
    cases fuel with
    | zero => cases hfuel
    | succ fuel => simp [scanString]
  | cons c cs ih =>
    have hpos : 0 < (escape c).length := by
      unfold escape
      repeat' split
      all_goals simp
    simp only [List.flatMap_cons, List.length_append] at hfuel
    obtain ⟨fuel, rfl⟩ : ∃ n, fuel = n + 1 := ⟨fuel - 1, by omega⟩
    rw [List.flatMap_cons, List.append_assoc, scanString_escape, ih (c :: done) (by omega)]
    simp

theorem string_escaped (s : String) (rest : List Char) :
    string (s.toList.flatMap escape ++ '"' :: rest) = .text s rest := by
  rw [string, scanString_flatMap_escape _ _ _ (by simp)]
  simp

end Reader

-- ---------------------------------------------------------------------------
-- Numbers
-- ---------------------------------------------------------------------------

/-- Signed or unsigned integers of 64 bits, without a negative zero. -/
structure Numeral.IsInteger (n : Numeral) : Prop where
  whole : n.whole = true
  exponent : n.exponent = 0
  significand : n.significand < limit
  negative : n.negative = true → 0 < n.significand ∧ n.significand ≤ Nat.pow 2 63

namespace Numeral

theorem isInteger_ofNat {n : Nat} (h : n < limit) : (ofInt n).IsInteger where
  whole := rfl
  exponent := rfl
  significand := h
  negative hneg := absurd (of_decide_eq_true (p := (n : Int) < 0) hneg) (by omega)

theorem round53_le (n : Nat) : round53 n ≤ 2 * n := by
  cases n with
  | zero => decide
  | succ m =>
    have hunit : Nat.pow 2 ((m + 1).log2 + 1 - 53) ≤ m + 1 :=
      Nat.le_trans (Nat.pow_le_pow_right (by omega) (by omega)) (Nat.log2_self_le (by omega))
    have hquotient := Nat.div_mul_le_self (m + 1) (Nat.pow 2 ((m + 1).log2 + 1 - 53))
    have hup := Nat.add_one_mul ((m + 1) / Nat.pow 2 ((m + 1).log2 + 1 - 53))
      (Nat.pow 2 ((m + 1).log2 + 1 - 53))
    simp only [round53]
    split <;> omega

theorem round53_round53_lt {n k : Nat} (hn : n < limit) (hk : 66 ≤ k) :
    ¬ Nat.pow 2 k ≤ round53 (round53 n * 1) := by
  have hround := round53_le n
  have hround' := round53_le (round53 n * 1)
  have hlimit : 4 * limit = Nat.pow 2 66 := by decide
  have hpow : Nat.pow 2 66 ≤ Nat.pow 2 k := Nat.pow_le_pow_right (by decide) hk
  omega

theorem IsInteger.overflows {n : Numeral} (h : n.IsInteger) : n.overflows = false := by
  rw [Numeral.overflows, h.exponent]
  split
  · rfl
  · rw [if_neg (by decide)]
    -- With the bound as a variable nobody computes the power.
    generalize hk : 1024 = k
    exact decide_eq_false (round53_round53_lt h.significand (by omega))

end Numeral

def Stops (rest : List Char) : Prop :=
  ∀ c ∈ rest.head?, c.isDigit = false ∧ c ≠ '.' ∧ c ≠ 'e' ∧ c ≠ 'E'

namespace Stops

variable {rest : List Char}

theorem takeWhile (h : Stops rest) : rest.takeWhile Char.isDigit = [] := by
  cases rest with
  | nil => rfl
  | cons c rest => simp [(h c rfl).1]

theorem dropWhile (h : Stops rest) : rest.dropWhile Char.isDigit = rest := by
  cases rest with
  | nil => rfl
  | cons c rest => simp [(h c rfl).1]

end Stops

namespace Reader

theorem le_ofDigitChars (cs : List Char) (n : Nat) : n ≤ Nat.ofDigitChars 10 cs n := by
  induction cs generalizing n with
  | nil => simp
  | cons c cs ih =>
    rw [Nat.ofDigitChars_cons]
    exact Nat.le_trans (by omega) (ih _)

theorem takeDigits_eq {cs : List Char} {n : Nat} (h : Nat.ofDigitChars 10 cs n < Numeral.limit) :
    takeDigits n cs = (Nat.ofDigitChars 10 cs n, cs.length) := by
  induction cs generalizing n with
  | nil => rfl
  | cons c cs ih =>
    rw [Nat.ofDigitChars_cons] at h ⊢
    have hc : 10 * n + (c.toNat - '0'.toNat) < Numeral.limit :=
      Nat.lt_of_le_of_lt (le_ofDigitChars cs _) h
    show (if 10 * n + (c.toNat - '0'.toNat) < Numeral.limit then
      ((takeDigits (10 * n + (c.toNat - '0'.toNat)) cs).1,
        (takeDigits (10 * n + (c.toNat - '0'.toNat)) cs).2 + 1) else (n, 0)) = _
    rw [if_pos hc, ih h]
    rfl

theorem afterWhole_stops {negative : Bool} {n : Nat} {rest : List Char}
    (hneg : negative = true → 0 < n ∧ n ≤ Nat.pow 2 63) (hrest : Stops rest) :
    afterWhole negative n 0 rest = (.number ⟨negative, n, 0, true⟩, some rest) := by
  have hwhole : ¬ (negative = true ∧ (n = 0 ∨ Nat.pow 2 63 < n)) := by
    rintro ⟨hnegative, hn⟩
    have := hneg hnegative
    omega
  unfold afterWhole
  split
  · exact absurd rfl (hrest '.' rfl).2.1
  · exact absurd rfl (hrest 'e' rfl).2.2.1
  · exact absurd rfl (hrest 'E' rfl).2.2.2
  · simp [hwhole]

theorem toDigits_eq_cons {n : Nat} (h : 0 < n) :
    ∃ c cs, Nat.toDigits 10 n = c :: cs ∧ c ≠ '0' := by
  induction n using Nat.strongRecOn with
  | _ n ih =>
    by_cases hlt : n < 10
    · refine ⟨n.digitChar, [], Nat.toDigits_of_lt_base hlt, ?_⟩
      have hnonzero : ∀ d < 10, 0 < d → d.digitChar ≠ '0' := by decide
      exact hnonzero n hlt h
    · obtain ⟨c, cs, hc, hne⟩ := ih (n / 10) (by omega) (by omega)
      exact ⟨c, cs ++ [(n % 10).digitChar],
        by rw [Nat.toDigits_of_base_le (by omega) (by omega), hc]; rfl, hne⟩

theorem unsigned_toDigits {negative : Bool} {n : Nat} {rest : List Char} (h : n < Numeral.limit)
    (hneg : negative = true → 0 < n ∧ n ≤ Nat.pow 2 63) (hrest : Stops rest) :
    unsigned negative (Nat.toDigits 10 n ++ rest) =
      (.number ⟨negative, n, 0, true⟩, some rest) := by
  cases n with
  | zero =>
    rw [Nat.toDigits_zero]
    cases rest with
    | nil => exact afterWhole_stops hneg hrest
    | cons c rest =>
      have hc := (hrest c rfl).1
      simp [unsigned, hc, afterWhole_stops hneg hrest]
  | succ n =>
    have hdigits : ∀ c ∈ Nat.toDigits 10 (n + 1), c.isDigit = true := fun c hc =>
      Nat.isDigit_of_mem_toDigits (by omega) (by omega) hc
    have hvalue : Nat.ofDigitChars 10 (Nat.toDigits 10 (n + 1)) 0 = n + 1 :=
      Nat.ofDigitChars_ten_toDigits
    obtain ⟨c, cs, hcs, hne⟩ := toDigits_eq_cons (Nat.succ_pos n)
    rw [hcs] at hdigits hvalue ⊢
    have hc : c.isDigit = true := hdigits c List.mem_cons_self
    have htake : (c :: (cs ++ rest)).takeWhile Char.isDigit = c :: cs := by
      rw [← List.cons_append, List.takeWhile_append_of_pos hdigits, hrest.takeWhile,
        List.append_nil]
    have hdrop : (c :: (cs ++ rest)).dropWhile Char.isDigit = rest := by
      rw [← List.cons_append, List.dropWhile_append_of_pos hdigits, hrest.dropWhile]
    have hall := takeDigits_eq (hvalue ▸ h)
    rw [List.cons_append, unsigned]
    · simp only [hc, if_true, htake, hdrop, hall, hvalue, Nat.sub_self]
      exact afterWhole_stops hneg hrest
    · exact hne

end Reader

-- ---------------------------------------------------------------------------
-- Values
-- ---------------------------------------------------------------------------

/-- Values that are read back, with room for `depth` containers inside each other. -/
inductive Writable : (depth : Nat) → Json → Prop
  | null {depth : Nat} : Writable depth .null
  | bool {depth : Nat} (b : Bool) : Writable depth (.bool b)
  | number {depth : Nat} {n : Numeral} (h : n.IsInteger) : Writable depth (.number n)
  | string {depth : Nat} (s : String) : Writable depth (.string s)
  | array {depth : Nat} {items : List Json} (h : ∀ item ∈ items, Writable depth item) :
      Writable (depth + 1) (.array items)
  | object {depth : Nat} {members : List (String × Json)}
      (names : (members.map Prod.fst).Nodup) (h : ∀ m ∈ members, Writable depth m.2) :
      Writable (depth + 1) (.object members)

namespace Numeral

theorem toList_render {n : Numeral} (h : n.whole = true) :
    n.render.toList = (if n.negative then ['-'] else []) ++ Nat.toDigits 10 n.significand := by
  rw [render, if_pos h]
  cases n.negative <;> simp [Nat.toList_repr]

end Numeral

namespace Reader

theorem skipSpace_cons {c : Char} (h : isSpace c = false) (rest : List Char) :
    skipSpace (c :: rest) = c :: rest := by
  rw [skipSpace, List.dropWhile_cons_of_neg (by simp [h])]

theorem isSpace_of_isDigit {c : Char} (h : c.isDigit = true) : isSpace c = false := by
  rw [Bool.eq_false_iff]
  intro hc
  simp only [isSpace, Bool.or_eq_true, beq_iff_eq] at hc
  rcases hc with ((rfl | rfl) | rfl) | rfl <;> exact absurd h (by decide)

theorem value_digit {c : Char} (h : c.isDigit = true) (fuel : Nat) (rest : List Char) :
    value (fuel + 1) (c :: rest) = unsigned false (c :: rest) := by
  rw [value, skipSpace_cons (isSpace_of_isDigit h)]
  split
  · next heq => cases heq
  · next heq => cases heq; exact absurd h (by decide)
  · next heq => cases heq; exact absurd h (by decide)
  · next heq => cases heq; exact absurd h (by decide)
  · next heq => cases heq; exact absurd h (by decide)
  · next heq =>
    cases heq
    rw [if_pos h]

theorem toDigits_eq_digit_cons (n : Nat) :
    ∃ c cs, Nat.toDigits 10 n = c :: cs ∧ c.isDigit = true := by
  obtain ⟨c, cs, hcs⟩ := List.exists_cons_of_ne_nil (Nat.toDigits_ne_nil (n := n) (b := 10))
  exact ⟨c, cs, hcs, Nat.isDigit_of_mem_toDigits (by omega) (by omega)
    (hcs ▸ List.mem_cons_self)⟩

theorem value_integer {n : Numeral} (h : n.IsInteger) (fuel : Nat) {rest : List Char}
    (hrest : Stops rest) :
    value (fuel + 1) (n.render.toList ++ rest) = (.number n, some rest) := by
  obtain ⟨negative, significand, exponent, whole⟩ := n
  obtain ⟨rfl, rfl, hlimit, hneg⟩ := h
  have hunsigned := unsigned_toDigits hlimit hneg hrest
  rw [Numeral.toList_render rfl]
  cases negative with
  | true =>
    show value (fuel + 1) ('-' :: (Nat.toDigits 10 significand ++ rest)) = _
    rw [value, skipSpace_cons (by decide)]
    exact hunsigned
  | false =>
    obtain ⟨c, cs, hcs, hc⟩ := toDigits_eq_digit_cons significand
    rw [hcs] at hunsigned
    show value (fuel + 1) (Nat.toDigits 10 significand ++ rest) = _
    rw [hcs, List.cons_append, value_digit hc]
    exact hunsigned

end Reader

theorem Writable.chars_eq_cons {depth : Nat} {j : Json} (h : Writable depth j) :
    ∃ c cs, j.chars = c :: cs ∧ Reader.isSpace c = false ∧ c ≠ ']' := by
  cases h with
  | null => exact ⟨_, _, rfl, by decide, by decide⟩
  | bool b => cases b <;> exact ⟨_, _, rfl, by decide, by decide⟩
  | @number _ n h =>
    have hrender := Numeral.toList_render h.whole
    cases hnegative : n.negative with
    | true =>
      rw [hnegative] at hrender
      exact ⟨_, _, hrender, by decide, by decide⟩
    | false =>
      rw [hnegative] at hrender
      obtain ⟨c, cs, hcs, hc⟩ := Reader.toDigits_eq_digit_cons n.significand
      refine ⟨c, cs, hrender.trans hcs, Reader.isSpace_of_isDigit hc, ?_⟩
      rintro rfl
      exact absurd hc (by decide)
  | string s => exact ⟨_, _, rfl, by decide, by decide⟩
  | @array _ items h => cases items <;> exact ⟨_, _, rfl, by decide, by decide⟩
  | @object _ members _ h => cases members <;> exact ⟨_, _, rfl, by decide, by decide⟩

namespace Reader

theorem stops_itemChars (items : List Json) (rest : List Char) :
    Stops (itemChars items ++ rest) := by
  intro c hc
  cases items <;> cases hc <;> decide

theorem stops_memberChars (members : List (String × Json)) (rest : List Char) :
    Stops (memberChars members ++ rest) := by
  intro c hc
  rcases members with _ | ⟨⟨name, value⟩, later⟩ <;> cases hc <;> decide

def Reads (j : Json) : Prop :=
  ∀ fuel rest, j.chars.length ≤ fuel → Stops rest →
    value fuel (j.chars ++ rest) = (Document.ofJson j, some rest)

theorem itemChars_cons_append (item : Json) (later : List Json) (rest : List Char) :
    itemChars (item :: later) ++ rest = ',' :: (item.chars ++ (itemChars later ++ rest)) := by
  simp [itemChars]

theorem memberChars_cons_append (m : String × Json) (later : List (String × Json))
    (rest : List Char) : memberChars (m :: later) ++ rest =
      ',' :: (quote m.1 ++ ':' :: (m.2.chars ++ (memberChars later ++ rest))) := by
  simp [memberChars]

theorem items_last {fuel : Nat} {cs rest : List Char} {item : Document}
    (h : value fuel cs = (item, some (']' :: rest))) :
    items (fuel + 1) cs = ([item], none, some rest) := by
  rw [items, h]
  rfl

theorem items_more {fuel : Nat} {cs rest : List Char} {item : Document}
    (h : value fuel cs = (item, some (',' :: rest))) :
    items (fuel + 1) cs = (item :: (items fuel rest).1, (items fuel rest).2) := by
  rw [items, h]
  rfl

theorem items_chars {item : Json} {later : List Json} (hreads : ∀ j ∈ item :: later, Reads j)
    {fuel : Nat} (hfuel : (item.chars ++ itemChars later).length ≤ fuel) (rest : List Char) :
    items fuel (item.chars ++ (itemChars later ++ rest)) =
      (Document.ofItems (item :: later), none, some rest) := by
  induction later generalizing item fuel with
  | nil =>
    simp only [List.length_append, itemChars, List.length_cons] at hfuel
    obtain ⟨fuel, rfl⟩ : ∃ n, fuel = n + 1 := ⟨fuel - 1, by omega⟩
    exact items_last (hreads item List.mem_cons_self fuel _ (by omega) (stops_itemChars [] rest))
  | cons next later ih =>
    simp only [List.length_append, itemChars, List.length_cons] at hfuel
    obtain ⟨fuel, rfl⟩ : ∃ n, fuel = n + 1 := ⟨fuel - 1, by omega⟩
    have hlater : items fuel (next.chars ++ (itemChars later ++ rest)) =
        (Document.ofItems (next :: later), none, some rest) :=
      ih (fun j hj => hreads j (List.mem_cons_of_mem item hj)) (by rw [List.length_append]; omega)
    have hitem := hreads item List.mem_cons_self fuel _ (by omega)
      (stops_itemChars (next :: later) rest)
    rw [itemChars_cons_append] at hitem ⊢
    rw [items_more hitem, hlater]
    rfl

theorem members_last (name : String) {fuel : Nat} {cs rest : List Char} {item : Document}
    (h : value fuel cs = (item, some ('}' :: rest))) :
    members (fuel + 2) (quote name ++ ':' :: cs) =
      ([(.text name, item)], none, some rest) := by
  simp only [quote, List.cons_append, List.append_assoc, List.nil_append, members, member, h,
    skipSpace_cons (c := '"') (by decide), skipSpace_cons (c := ':') (by decide), string_escaped,
    skipSpace_cons (c := '}') (by decide)]

theorem members_more (name : String) {fuel : Nat} {cs rest : List Char} {item : Document}
    (h : value fuel cs = (item, some (',' :: rest))) :
    members (fuel + 2) (quote name ++ ':' :: cs) =
      ((.text name, item) :: (members fuel rest).1, (members fuel rest).2) := by
  simp only [quote, List.cons_append, List.append_assoc, List.nil_append, members, member, h,
    skipSpace_cons (c := '"') (by decide), skipSpace_cons (c := ':') (by decide), string_escaped,
    skipSpace_cons (c := ',') (by decide)]

theorem members_chars {name : String} {first : Json} {later : List (String × Json)}
    (hfirst : Reads first) (hlater : ∀ m ∈ later, Reads m.2) {fuel : Nat}
    (hfuel : (quote name ++ ':' :: (first.chars ++ memberChars later)).length ≤ fuel)
    (rest : List Char) :
    members fuel (quote name ++ ':' :: (first.chars ++ (memberChars later ++ rest))) =
      (Document.ofMembers ((name, first) :: later), none, some rest) := by
  induction later generalizing name first fuel with
  | nil =>
    simp only [quote, List.length_append, memberChars, List.length_cons] at hfuel
    obtain ⟨fuel, rfl⟩ : ∃ n, fuel = n + 2 := ⟨fuel - 2, by omega⟩
    exact members_last name (hfirst fuel _ (by omega) (stops_memberChars [] rest))
  | cons next later ih =>
    simp only [quote, List.length_append, memberChars, List.length_cons] at hfuel
    obtain ⟨fuel, rfl⟩ : ∃ n, fuel = n + 2 := ⟨fuel - 2, by omega⟩
    obtain ⟨hnext, hlater⟩ := List.forall_mem_cons.mp hlater
    have hlength : (quote next.1 ++ ':' :: (next.2.chars ++ memberChars later)).length ≤ fuel := by
      simp only [quote, List.length_append, List.length_cons]
      omega
    have hmembers := ih hnext hlater hlength
    have hmember := hfirst fuel _ (by omega) (stops_memberChars (next :: later) rest)
    rw [memberChars_cons_append] at hmember ⊢
    rw [members_more name hmember, hmembers]
    rfl

end Reader

theorem Writable.reads_of_succ {depth : Nat} {j : Json} (h : Writable depth j)
    (hreads : ∀ fuel rest, j.chars.length ≤ fuel + 1 → Stops rest →
      Reader.value (fuel + 1) (j.chars ++ rest) = (Document.ofJson j, some rest)) :
    Reader.Reads j := by
  intro fuel rest hfuel hrest
  obtain ⟨c, cs, hcs, -⟩ := h.chars_eq_cons
  cases fuel with
  | zero => simp [hcs] at hfuel
  | succ fuel => exact hreads fuel rest hfuel hrest

theorem Writable.reads {depth : Nat} {j : Json} (h : Writable depth j) : Reader.Reads j := by
  induction h with
  | null => exact (Writable.null : Writable 0 _).reads_of_succ fun _ _ _ _ => rfl
  | bool b =>
    exact (Writable.bool b : Writable 0 _).reads_of_succ fun _ _ _ _ => by cases b <;> rfl
  | number h =>
    exact (Writable.number h : Writable 0 _).reads_of_succ fun fuel _ _ hrest =>
      Reader.value_integer h fuel hrest
  | string s =>
    refine (Writable.string s : Writable 0 _).reads_of_succ fun fuel rest _ _ => ?_
    simp only [chars, quote, List.cons_append, List.append_assoc, List.nil_append, Reader.value,
      Reader.skipSpace_cons (c := '"') (by decide), Reader.string_escaped]
    rfl
  | @array _ items h ih =>
    refine (Writable.array h).reads_of_succ fun fuel rest hfuel _ => ?_
    cases items with
    | nil => rfl
    | cons item later =>
      obtain ⟨c, cs, hcs, hspace, hbracket⟩ := (h item List.mem_cons_self).chars_eq_cons
      have hlength : (item.chars ++ itemChars later).length ≤ fuel := by
        simpa [chars] using hfuel
      have hitems := Reader.items_chars ih hlength rest
      simp only [chars, List.cons_append, List.append_assoc, Reader.value,
        Reader.skipSpace_cons (c := '[') (by decide)]
      rw [hcs, List.cons_append] at hitems ⊢
      rw [Reader.skipSpace_cons hspace]
      split
      · next heq => exact absurd (List.cons.inj heq).1 hbracket
      · next heq => cases heq
      · rw [hitems]
        rfl
  | @object _ members names h ih =>
    refine (Writable.object names h).reads_of_succ fun fuel rest hfuel _ => ?_
    rcases members with _ | ⟨⟨name, first⟩, later⟩
    · rfl
    · obtain ⟨hfirst, hlater⟩ := List.forall_mem_cons.mp ih
      have hlength : (quote name ++ ':' :: (first.chars ++ memberChars later)).length ≤ fuel := by
        simpa [chars] using hfuel
      have hmembers := Reader.members_chars hfirst hlater hlength rest
      simp only [chars, List.cons_append, List.append_assoc, Reader.value,
        Reader.skipSpace_cons (c := '{') (by decide)]
      have hquote (cs : List Char) : Reader.skipSpace (quote name ++ cs) = quote name ++ cs :=
        Reader.skipSpace_cons (by decide) _
      rw [hquote]
      split
      · next heq => exact absurd (List.cons.inj heq).1 (by decide)
      · rw [hmembers]
        rfl

namespace Document

theorem itemValues_ofItems {depth : Nat} {items : List Json}
    (h : ∀ item ∈ items, (ofJson item).value depth = .ok item) :
    itemValues depth (ofItems items) = .ok items := by
  induction items with
  | nil => rfl
  | cons item rest ih =>
    obtain ⟨hitem, hrest⟩ := List.forall_mem_cons.mp h
    rw [ofItems, itemValues, hitem, ih hrest]
    rfl

theorem memberValues_ofMembers {depth : Nat} {done members : List (String × Json)}
    (hnames : ((done ++ members).map Prod.fst).Nodup)
    (h : ∀ m ∈ members, (ofJson m.2).value depth = .ok m.2) :
    memberValues depth done (ofMembers members) = .ok (done ++ members) := by
  induction members generalizing done with
  | nil => simp [ofMembers, memberValues]
  | cons m rest ih =>
    obtain ⟨hm, hrest⟩ := List.forall_mem_cons.mp h
    obtain ⟨name, item⟩ := m
    have hnew : name ∉ done.map Prod.fst := by
      intro hname
      rw [List.map_append, List.nodup_append] at hnames
      exact hnames.2.2 name hname name List.mem_cons_self rfl
    have hnames' : ((done ++ [(name, item)] ++ rest).map Prod.fst).Nodup := by simpa using hnames
    have hlater := ih hnames' hrest
    rw [List.append_assoc, ← insert_of_not_mem hnew] at hlater
    rw [ofMembers, memberValues, hm]
    exact hlater

end Document

theorem Writable.value_ofJson {depth : Nat} {j : Json} (h : Writable depth j) :
    (Document.ofJson j).value depth = .ok j := by
  induction h with
  | null => rfl
  | bool b => rfl
  | number h => rw [Document.ofJson, Document.value, h.overflows, if_neg Bool.false_ne_true]
  | string s => rfl
  | array h ih =>
    rw [Document.ofJson, Document.value, Document.itemValues_ofItems ih]
    rfl
  | object names h ih =>
    rw [Document.ofJson, Document.value,
      Document.memberValues_ofMembers ((List.nil_append _).symm ▸ names) ih]
    rfl

-- ---------------------------------------------------------------------------
-- Texts
-- ---------------------------------------------------------------------------

def Reader.Ended (rest : Reader.Rest) : Prop := ∀ cs ∈ rest, Reader.skipSpace cs = []

theorem read_eq_ok_iff {α : Type} {reader : Document → Result α} {text : String} {a : α} :
    read reader text = .ok a ↔ reader (Reader.document text.toList).1 = .ok a ∧
      Reader.Ended (Reader.document text.toList).2 := by
  rw [read]
  generalize Reader.document text.toList = found
  obtain ⟨d, rest⟩ := found
  cases hread : reader d with
  | error e => simp [hread, bind, Except.bind]
  | ok value =>
    cases rest with
    | none => simp [hread, bind, Except.bind, pure, Except.pure, Reader.Ended]
    | some cs =>
      cases hspace : Reader.skipSpace cs <;>
        simp [hread, bind, Except.bind, pure, Except.pure, Reader.Ended, hspace]

theorem nodup_of_parse {text : String} {members : List (String × Json)}
    (h : parse text = .ok (.object members)) : (members.map Prod.fst).Nodup := by
  obtain ⟨hvalue, -⟩ := read_eq_ok_iff.mp h
  exact Document.nodup_of_value hvalue

theorem Writable.read_render {α : Type} {depth : Nat} {j : Json} (h : Writable depth j)
    (reader : Document → Result α) : read reader j.render = reader (Document.ofJson j) := by
  have hdocument : Reader.document j.chars = (Document.ofJson j, some []) := by
    have hreads := h.reads (3 * j.chars.length + 3) [] (by omega) (by intro c hc; cases hc)
    rwa [List.append_nil] at hreads
  simp only [read, render, String.toList_ofList, hdocument]
  cases reader (Document.ofJson j) <;> rfl

theorem Writable.parse_written {j : Json} (h : Writable Document.maxDepth j) :
    parse j.render = .ok j :=
  (h.read_render _).trans h.value_ofJson

end Mailroom.Json
