import Mailroom.Text.Number

/-!
# Numbers are read back from their decimal digits
-/

namespace Mailroom.Text

theorem digitsFrom_of_digits {cs : List Char} (h : ∀ c ∈ cs, c.isDigit = true) (n : Nat) :
    digitsFrom n cs = some (Nat.ofDigitChars 10 cs n) := by
  induction cs generalizing n with
  | nil => rfl
  | cons c cs ih =>
    rw [List.forall_mem_cons] at h
    rw [digitsFrom, if_pos h.1, ih h.2, Nat.ofDigitChars_cons]
    rfl

theorem isDigit_of_mem_toDigits {n : Nat} {c : Char} (h : c ∈ Nat.toDigits 10 n) :
    c.isDigit = true :=
  Nat.isDigit_of_mem_toDigits (by decide) (by decide) h

theorem digits?_toDigits (n : Nat) : digits? (Nat.toDigits 10 n) = some n := by
  obtain ⟨c, cs, hcs⟩ := List.exists_cons_of_ne_nil (Nat.toDigits_ne_nil (n := n) (b := 10))
  rw [hcs, digits?, ← hcs, digitsFrom_of_digits (fun _ => isDigit_of_mem_toDigits),
    Nat.ofDigitChars_ten_toDigits]

theorem natural?_toDigits {limit n : Nat} (h : n < limit) :
    natural? limit (Nat.toDigits 10 n) = some n := by
  have hplus : '+' ∉ Nat.toDigits 10 n := fun hm =>
    absurd (isDigit_of_mem_toDigits hm) (by decide)
  unfold natural?
  split
  · next rest hdigits => exact absurd (hdigits ▸ List.mem_cons_self) hplus
  · simp [digits?_toDigits, h]

end Mailroom.Text
