import Mailroom.Proofs.Time.Calendar
import Mailroom.Time.Instant

/-!
# Times that survive storage

An instant in a year of four digits is read back from its text. Years outside are not: the sign
in front of them is not read.
-/

namespace Mailroom.Time.Instant

-- ---------------------------------------------------------------------------
-- Numbers
-- ---------------------------------------------------------------------------

def valueFrom (start : Nat) (ds : List Char) : Nat :=
  ds.foldl (fun n c => 10 * n + (c.toNat - 48)) start

theorem fixedFrom_append {ds : List Char} (h : ∀ c ∈ ds, c.isDigit = true) (start : Nat)
    (rest : List Char) :
    fixedFrom start ds.length (ds ++ rest) = some (valueFrom start ds, rest) := by
  induction ds generalizing start with
  | nil => rfl
  | cons c ds ih =>
    have hc := h c List.mem_cons_self
    simp only [List.length_cons, List.cons_append, fixedFrom, hc, if_true]
    exact ih (fun d hd => h d (List.mem_cons_of_mem _ hd)) _

theorem length_digits (count n : Nat) : (digits count n).length = count := by
  induction count generalizing n with
  | zero => rfl
  | succ count ih => simp [digits, ih]

theorem isDigit_ofNat : ∀ d : Nat, d < 10 →
    (Char.ofNat (48 + d)).isDigit = true ∧ (Char.ofNat (48 + d)).toNat - 48 = d := by
  decide

theorem isDigit_digits (count n : Nat) : ∀ c ∈ digits count n, c.isDigit = true := by
  induction count generalizing n with
  | zero => simp [digits]
  | succ count ih =>
    intro c hc
    rcases List.mem_append.mp hc with hc | hc
    · exact ih (n / 10) c hc
    · obtain rfl := List.mem_singleton.mp hc
      exact (isDigit_ofNat _ (Nat.mod_lt n (by decide))).1

theorem valueFrom_digits (start : Nat) {count n : Nat} (h : n < Nat.pow 10 count) :
    valueFrom start (digits count n) = start * Nat.pow 10 count + n := by
  induction count generalizing n with
  | zero =>
    obtain rfl : n = 0 := by simpa using h
    simp [valueFrom, digits]
  | succ count ih =>
    have hpow : Nat.pow 10 (count + 1) = Nat.pow 10 count * 10 := rfl
    rw [hpow] at h ⊢
    have hprefix := ih (n := n / 10) (by omega)
    have hlast := (isDigit_ofNat _ (Nat.mod_lt n (by decide))).2
    unfold valueFrom at hprefix ⊢
    rw [digits, List.foldl_append, hprefix, ← Nat.mul_assoc]
    simp only [List.foldl_cons, List.foldl_nil, hlast]
    omega

theorem fixed_digits (count : Nat) {n : Nat} (h : n < Nat.pow 10 count) (rest : List Char) :
    fixed count (digits count n ++ rest) = some (n, rest) := by
  have hread := fixedFrom_append (isDigit_digits count n) 0 rest
  rw [length_digits, valueFrom_digits 0 h, Nat.zero_mul, Nat.zero_add] at hread
  exact hread

-- ---------------------------------------------------------------------------
-- Fractions
-- ---------------------------------------------------------------------------

theorem readFraction_digits {count n : Nat} (hcount : 1 ≤ count ∧ count ≤ 9)
    (h : n < Nat.pow 10 count)
    {c : Char} (hc : c.isDigit = false) (rest : List Char) :
    readFraction ('.' :: digits count n ++ c :: rest) =
      some (n * Nat.pow 10 (9 - count), c :: rest) := by
  have hall := isDigit_digits count n
  have htake : (digits count n ++ c :: rest).takeWhile Char.isDigit = digits count n := by
    rw [List.takeWhile_append_of_pos hall, List.takeWhile_cons_of_neg (by simp [hc]),
      List.append_nil]
  have hdrop : (digits count n ++ c :: rest).dropWhile Char.isDigit = c :: rest := by
    rw [List.dropWhile_append_of_pos hall, List.dropWhile_cons_of_neg (by simp [hc])]
  have hlength := length_digits count n
  have hne : (digits count n).isEmpty = false := by
    rw [List.isEmpty_eq_false_iff_exists_mem]
    exact List.exists_mem_of_length_pos (by omega)
  have hvalue := valueFrom_digits 0 h
  have hshort : (digits count n).take 9 = digits count n := List.take_of_length_le (by omega)
  unfold valueFrom at hvalue
  simp only [List.cons_append, readFraction, htake, hdrop, hne, fraction, hshort, hvalue, hlength]
  simp

theorem readFraction_fractionChars {nanos : Nat} (h : nanos < 1000000000) {rest : List Char} :
    readFraction (fractionChars nanos ++ '+' :: rest) = some (nanos, '+' :: rest) := by
  unfold fractionChars
  split
  · next hzero => simp [readFraction, hzero]
  · split
    · next hmod =>
      have hlt : nanos / 1000000 < 1000 := by omega
      have hexact : nanos / 1000000 * 1000000 = nanos := by omega
      rw [readFraction_digits (by decide) hlt rfl]
      exact congrArg (fun n => some (n, '+' :: rest)) hexact
    · split
      · next hmod =>
        have hlt : nanos / 1000 < 1000000 := by omega
        have hexact : nanos / 1000 * 1000 = nanos := by omega
        rw [readFraction_digits (by decide) hlt rfl]
        exact congrArg (fun n => some (n, '+' :: rest)) hexact
      · rw [readFraction_digits (by decide) h rfl]
        exact congrArg (fun n => some (n, '+' :: rest)) (Nat.mul_one nanos)

-- ---------------------------------------------------------------------------
-- Whole texts
-- ---------------------------------------------------------------------------

/-- In a year of four digits, and with nanoseconds of a second or, at the end of a minute, of a
leap second. -/
structure Readable (t : Instant) : Prop where
  year : 0 ≤ (Date.ofDays (t.seconds / 86400)).year ∧ (Date.ofDays (t.seconds / 86400)).year ≤ 9999
  nanos : t.nanos < 1000000000 ∨ t.nanos < 2000000000 ∧ t.seconds % 60 = 59

theorem month_day_lt {d : Date} (h : d.exists? = true) : d.month < 100 ∧ d.day < 100 := by
  simp only [Date.exists?, Bool.and_eq_true, decide_eq_true_eq] at h
  have : daysInMonth d.year d.month ≤ 31 := by
    unfold daysInMonth
    repeat' split
    all_goals decide
  omega

theorem behind_cons {allowed : List Char} {c : Char} (h : allowed.contains c = true)
    (rest : List Char) : behind allowed (c :: rest) = some rest := by
  simp only [behind, h, if_true]

def write (date : Date) (hour minute second nanos : Nat) : List Char :=
  yearChars date.year ++ '-' :: digits 2 date.month ++ '-' :: digits 2 date.day
    ++ 'T' :: digits 2 hour ++ ':' :: digits 2 minute ++ ':' :: digits 2 second
    ++ fractionChars nanos ++ ['+', '0', '0', ':', '0', '0']

theorem bind_of_eq_some {α β : Type} {o : Option α} {a : α} {f : α → Option β} {r : Option β}
    (h : o = some a) (hf : f a = r) : o >>= f = r := by
  rw [h]
  exact hf

theorem parseChars_write {date : Date} {hour minute second nanos : Nat}
    (hdate : date.exists? = true) (hyear : 0 ≤ date.year ∧ date.year ≤ 9999)
    (hhour : hour < 24) (hminute : minute < 60) (hsecond : second ≤ 60)
    (hnanos : nanos < 1000000000) :
    parseChars (write date hour minute second nanos) =
      some ⟨date.toDays * 86400 + hour * 3600 + minute * 60
          + (if second = 60 then 59 else second : Nat),
        if second = 60 then nanos + 1000000000 else nanos⟩ := by
  obtain ⟨hmonth, hday⟩ := month_day_lt hdate
  have htext : write date hour minute second nanos =
      digits 4 date.year.toNat ++ '-' :: (digits 2 date.month ++ '-' :: (digits 2 date.day
        ++ 'T' :: (digits 2 hour ++ ':' :: (digits 2 minute ++ ':' :: (digits 2 second
        ++ (fractionChars nanos ++ ['+', '0', '0', ':', '0', '0'])))))) := by
    simp only [write, yearChars, if_pos hyear, List.append_assoc, List.cons_append]
  have hyearNat : (⟨date.year.toNat, date.month, date.day⟩ : Date) = date := by
    rw [Int.toNat_of_nonneg hyear.1]
  have hrange : ¬ (23 < hour ∨ 59 < minute ∨ 60 < second) := by omega
  rw [htext]
  refine bind_of_eq_some (fixed_digits 4 (show date.year.toNat < 10000 by omega) _)
    (bind_of_eq_some (behind_cons rfl _) ?_)
  refine bind_of_eq_some (fixed_digits 2 hmonth _) (bind_of_eq_some (behind_cons rfl _) ?_)
  refine bind_of_eq_some (fixed_digits 2 hday _) (bind_of_eq_some (behind_cons rfl _) ?_)
  refine bind_of_eq_some (fixed_digits 2 (show hour < 100 by omega) _)
    (bind_of_eq_some (behind_cons rfl _) ?_)
  refine bind_of_eq_some (fixed_digits 2 (show minute < 100 by omega) _)
    (bind_of_eq_some (behind_cons rfl _) ?_)
  refine bind_of_eq_some (fixed_digits 2 (show second < 100 by omega) _) ?_
  refine bind_of_eq_some (readFraction_fractionChars hnanos) ?_
  refine bind_of_eq_some (show readOffset ['+', '0', '0', ':', '0', '0'] = some 0 by decide) ?_
  simp only [hyearNat, hdate, hrange]
  simp

theorem parse_rendered {t : Instant} (h : t.Readable) : parse t.render = some t := by
  let date := Date.ofDays (t.seconds / 86400)
  let time := (t.seconds % 86400).toNat
  have hread : ∀ second nanos, second ≤ 60 → nanos < 1000000000 →
      parseChars (write date (time / 3600) (time / 60 % 60) second nanos) =
        some ⟨t.seconds / 86400 * 86400 + (time / 3600 : Nat) * 3600 + (time / 60 % 60 : Nat) * 60
            + (if second = 60 then 59 else second : Nat),
          if second = 60 then nanos + 1000000000 else nanos⟩ := by
    intro second nanos hsecond hnanos
    rw [parseChars_write (Date.exists?_ofDays _) h.year (by omega) (by omega) hsecond hnanos,
      Date.toDays_ofDays]
  have htime : (time : Int) = t.seconds % 86400 := Int.toNat_of_nonneg (by omega)
  rw [parse, render, String.toList_ofList]
  have hnanos := h.nanos
  by_cases hleap : 1000000000 ≤ t.nanos
  · have hrender : t.renderChars =
        write date (time / 3600) (time / 60 % 60) (time % 60 + 1) (t.nanos - 1000000000) := by
      simp only [renderChars, if_pos hleap]
      rfl
    have hlast : time % 60 + 1 = 60 := by omega
    rw [hrender, hread _ _ (by omega) (by omega), if_pos hlast, if_pos hlast,
      Nat.sub_add_cancel hleap]
    exact congrArg (fun seconds => some (Instant.mk seconds t.nanos)) (by omega)
  · have hrender : t.renderChars = write date (time / 3600) (time / 60 % 60) (time % 60) t.nanos := by
      simp only [renderChars, if_neg hleap]
      rfl
    have hplain : ¬ time % 60 = 60 := by omega
    rw [hrender, hread _ _ (by omega) (by omega), if_neg hplain, if_neg hplain]
    exact congrArg (fun seconds => some (Instant.mk seconds t.nanos)) (by omega)

-- ---------------------------------------------------------------------------
-- What is read
-- ---------------------------------------------------------------------------

theorem valueFrom_lt {ds : List Char} (h : ∀ c ∈ ds, c.isDigit = true) (start : Nat) :
    valueFrom start ds < (start + 1) * Nat.pow 10 ds.length := by
  induction ds generalizing start with
  | nil => simp [valueFrom]
  | cons c ds ih =>
    obtain ⟨hc, hds⟩ := List.forall_mem_cons.mp h
    have hdigit : c.toNat - 48 ≤ 9 := by
      have hnine : c.toNat ≤ 57 := (Bool.and_eq_true_iff.mp hc).2 |> of_decide_eq_true
      omega
    have hpow : Nat.pow 10 (c :: ds).length = 10 * Nat.pow 10 ds.length := Nat.mul_comm _ _
    calc valueFrom start (c :: ds) = valueFrom (10 * start + (c.toNat - 48)) ds := rfl
      _ < (10 * start + (c.toNat - 48) + 1) * Nat.pow 10 ds.length := ih hds _
      _ ≤ (start + 1) * 10 * Nat.pow 10 ds.length := Nat.mul_le_mul_right _ (by omega)
      _ = (start + 1) * Nat.pow 10 (c :: ds).length := by rw [hpow, Nat.mul_assoc]

theorem fraction_lt {ds : List Char} (h : ∀ c ∈ ds, c.isDigit = true) :
    fraction ds < 1000000000 := by
  have htake : ∀ c ∈ ds.take 9, c.isDigit = true := fun c hc => h c (List.mem_of_mem_take hc)
  have hvalue := valueFrom_lt htake 0
  rw [Nat.zero_add, Nat.one_mul, List.length_take] at hvalue
  have hpow : Nat.pow 10 (min 9 ds.length) * Nat.pow 10 (9 - ds.length) = 1000000000 := by
    show 10 ^ _ * 10 ^ _ = 10 ^ 9
    rw [← Nat.pow_add]
    congr 1
    omega
  rw [← hpow]
  exact Nat.mul_lt_mul_of_pos_right hvalue (Nat.pow_pos (by decide))

theorem readFraction_lt {cs rest : List Char} {nanos : Nat}
    (h : readFraction cs = some (nanos, rest)) : nanos < 1000000000 := by
  unfold readFraction at h
  split at h
  · simp only at h
    split at h
    · cases h
    · cases h
      exact fraction_lt fun c hc => (List.all_eq_true.mp (List.all_takeWhile) c hc)
  · cases h
    decide

theorem readOffset_mod {cs : List Char} {offset : Int} (h : readOffset cs = some offset) :
    offset % 60 = 0 := by
  unfold readOffset at h
  split at h
  · cases h
    rfl
  · cases h
    rfl
  · simp only [Option.bind_eq_bind, Option.bind_none, Option.bind_some, Option.pure_def,
      Bool.false_eq_true, if_false, if_true] at h
    -- East of UTC and west of it.
    iterate 2
      split at h
      · simp only [Option.bind_eq_some_iff] at h
        obtain ⟨hours, -, rest, -, minutes, -, h⟩ := h
        split at h
        · cases h
        · cases h
          omega
    cases h
  · cases h

theorem nanos_of_parse {text : String} {t : Instant} (h : parse text = some t) :
    t.nanos < 1000000000 ∨ t.nanos < 2000000000 ∧ t.seconds % 60 = 59 := by
  unfold parse parseChars at h
  simp only [Option.bind_eq_bind, Option.bind_eq_some_iff, Option.pure_def] at h
  obtain ⟨_, -, _, -, _, -, _, -, _, -, _, -, _, -, _, -, _, -, _, -, second, -, nanos, hnanos,
    offset, hoffset, h⟩ := h
  have hlt := readFraction_lt hnanos
  have hminutes := readOffset_mod hoffset
  split at h
  · cases h
  · cases h
    by_cases hleap : second.1 = 60
    · simp only [hleap, if_true]
      omega
    · simp only [hleap, if_false]
      exact .inl hlt

-- ---------------------------------------------------------------------------
-- Years beyond four digits
-- ---------------------------------------------------------------------------

def InRange (t : Instant) : Prop :=
  0 ≤ (Date.ofDays (t.seconds / 86400)).year ∧ (Date.ofDays (t.seconds / 86400)).year ≤ 9999

instance (t : Instant) : Decidable t.InRange := inferInstanceAs (Decidable (_ ∧ _))

theorem parse_rendered_of_not_inRange {t : Instant} (h : ¬ t.InRange) : parse t.render = none := by
  have hyear : ∃ c rest, yearChars (Date.ofDays (t.seconds / 86400)).year = c :: rest ∧
      c.isDigit = false := by
    unfold yearChars
    rw [if_neg (show ¬ (_ ∧ _) from h)]
    refine ⟨_, _, rfl, ?_⟩
    split <;> rfl
  obtain ⟨c, rest, hyear, hc⟩ := hyear
  have hfixed (more : List Char) : fixed 4 (c :: more) = none := by
    simp [fixed, fixedFrom, hc]
  rw [parse, render, String.toList_ofList, renderChars, hyear]
  simp only [List.cons_append, parseChars, hfixed]
  rfl

theorem parse_render_of_parse {text : String} {t : Instant} (h : parse text = some t) :
    parse t.render = if t.InRange then some t else none := by
  split
  · next hrange => exact parse_rendered ⟨hrange, nanos_of_parse h⟩
  · next hrange => exact parse_rendered_of_not_inRange hrange

end Mailroom.Time.Instant
