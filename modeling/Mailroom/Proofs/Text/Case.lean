import Mailroom.Text.Case

/-!
# Letter case in ASCII

For ASCII texts the full mapping of Unicode to lower case is that of the letters `A` to `Z`, and
texts are equal in lower case exactly if they are in upper case.
-/

namespace Mailroom.Text

theorem forall_ascii {p : Char → Prop} (h : ∀ n < 128, p (Char.ofNat n)) {c : Char}
    (hc : c.toNat < 128) : p c := by
  have := h c.toNat hc
  rwa [Char.ofNat_toNat] at this

theorem toLower_of_le {c : Char} (h : 128 ≤ c.toNat) : c.toLower = c :=
  dif_neg fun hc => by
    have hz : c.toNat ≤ 90 := hc.2
    omega

theorem toLower_toLower (c : Char) : c.toLower.toLower = c.toLower := by
  rcases Nat.lt_or_ge c.toNat 128 with h | h
  · exact forall_ascii (p := fun c => c.toLower.toLower = c.toLower) (by decide +kernel) h
  · rw [toLower_of_le h, toLower_of_le h]

theorem map_toLower_eq_self {cs : List Char} (h : ∀ c ∈ cs, c.toLower = c) :
    cs.map Char.toLower = cs :=
  (List.map_congr_left h).trans (List.map_id cs)

theorem lowerAscii_lowerAscii (s : String) : lowerAscii (lowerAscii s) = lowerAscii s := by
  have hlower : ∀ c ∈ s.toList.map Char.toLower, c.toLower = c :=
    List.forall_mem_map.mpr fun c _ => toLower_toLower c
  rw [lowerAscii, lowerAscii, String.toList_ofList, map_toLower_eq_self hlower]

theorem sameAscii_iff {a b : String} : sameAscii a b = true ↔ lowerAscii a = lowerAscii b := by
  rw [sameAscii, beq_iff_eq, lowerAscii, lowerAscii, String.ofList_inj]

theorem toList_lower_ascii {s : String} (h : ∀ c ∈ s.toList, c.toNat < 128) :
    (lower s).toList = s.toList.map Char.toLower := by
  have hsigma : 'Σ' ∉ s.toList := fun hm => absurd (h _ hm) (by decide)
  have hchar : ∀ c ∈ s.toList, lowerChar c = [c.toLower] := fun c hc =>
    forall_ascii (p := fun c => lowerChar c = [c.toLower]) (by decide +kernel) (h c hc)
  rw [lower, String.toList_ofList, lowerFrom_eq_flatMap [] _ hsigma, List.map_eq_flatMap,
    List.flatMap_def, List.map_congr_left hchar, ← List.flatMap_def]

theorem map_toLower_toUpper {cs : List Char} (h : ∀ c ∈ cs, c.toNat < 128) :
    (cs.map Char.toUpper).map Char.toLower = cs.map Char.toLower := by
  rw [List.map_map]
  refine List.map_congr_left fun c hc => ?_
  exact forall_ascii (p := fun c => c.toUpper.toLower = c.toLower) (by decide +kernel) (h c hc)

theorem map_toUpper_toLower {cs : List Char} (h : ∀ c ∈ cs, c.toNat < 128) :
    (cs.map Char.toLower).map Char.toUpper = cs.map Char.toUpper := by
  rw [List.map_map]
  refine List.map_congr_left fun c hc => ?_
  exact forall_ascii (p := fun c => c.toLower.toUpper = c.toUpper) (by decide +kernel) (h c hc)

theorem upper_iff_lower {r : List Char → List Char → Prop}
    (hmap : ∀ (f : Char → Char) a b, r a b → r (a.map f) (b.map f)) {a b : List Char}
    (ha : ∀ c ∈ a, c.toNat < 128) (hb : ∀ c ∈ b, c.toNat < 128) :
    r (a.map Char.toUpper) (b.map Char.toUpper) ↔ r (a.map Char.toLower) (b.map Char.toLower) := by
  constructor
  · intro h
    have := hmap Char.toLower _ _ h
    rwa [map_toLower_toUpper ha, map_toLower_toUpper hb] at this
  · intro h
    have := hmap Char.toUpper _ _ h
    rwa [map_toUpper_toLower ha, map_toUpper_toLower hb] at this

end Mailroom.Text
