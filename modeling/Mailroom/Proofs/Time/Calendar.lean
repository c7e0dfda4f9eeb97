import Mailroom.Time.Calendar

/-!
# Days and dates

Every number of days is that of one date, and that date exists.
-/

namespace Mailroom.Time

-- ---------------------------------------------------------------------------
-- Years of an era
-- ---------------------------------------------------------------------------

def daysBefore (year : Int) : Int := 365 * year + year / 4 - year / 100 + year / 400

/-- A day of an era without the leap days before it, roughly: enough to tell its year. -/
def withoutLeapDays (day : Int) : Int := day - day / 1460 + day / 36524 - day / 146096

theorem withoutLeapDays_mono {a b : Int} (h : a ≤ b) : withoutLeapDays a ≤ withoutLeapDays b := by
  unfold withoutLeapDays
  omega

theorem withoutLeapDays_bounds : ∀ year : Nat, year < 400 →
    365 * (year : Int) ≤ withoutLeapDays (daysBefore year) ∧
      withoutLeapDays (daysBefore (year + 1) - 1) < 365 * ((year : Int) + 1) := by
  decide +kernel

theorem exists_year {day : Int} (h0 : 0 ≤ day) (years : Nat) (h : day < daysBefore years) :
    ∃ year < years, daysBefore year ≤ day ∧ day < daysBefore (year + 1) := by
  induction years with
  | zero => exact absurd h (Int.not_lt.mpr h0)
  | succ years ih =>
    by_cases hyear : day < daysBefore years
    · obtain ⟨year, hlt, hspan⟩ := ih hyear
      exact ⟨year, Nat.lt_succ_of_lt hlt, hspan⟩
    · exact ⟨years, Nat.lt_succ_self _, Int.not_lt.mp hyear, h⟩

theorem year_spec {day : Int} (h0 : 0 ≤ day) (h : day < 146097) : ∃ year : Int,
    withoutLeapDays day / 365 = year ∧ 0 ≤ year ∧ year < 400 ∧
      daysBefore year ≤ day ∧ day < daysBefore (year + 1) := by
  obtain ⟨year, hlt, hfirst, hlast⟩ := exists_year h0 400 h
  obtain ⟨hlower, hupper⟩ := withoutLeapDays_bounds year hlt
  have hge := withoutLeapDays_mono hfirst
  have hle := withoutLeapDays_mono (Int.le_sub_one_of_lt hlast)
  exact ⟨year, by omega, by omega, by omega, hfirst, hlast⟩

-- ---------------------------------------------------------------------------
-- Days of a year
-- ---------------------------------------------------------------------------

namespace Date

def inMonth (year month day : Int) : Date :=
  if month < 10 then ⟨year, (month + 3).toNat, day.toNat⟩
  else ⟨year + 1, (month - 9).toNat, day.toNat⟩

def daysBeforeMonth (month : Int) : Int := (153 * month + 2) / 5

def ofMarch (year dayOfYear : Int) : Date :=
  let month := (5 * dayOfYear + 2) / 153
  inMonth year month (dayOfYear - daysBeforeMonth month + 1)

theorem ofDays_eq (days : Int) : ∃ era year dayOfYear : Int,
    ofDays days = ofMarch (year + era * 400) dayOfYear ∧
      days + 719468 = era * 146097 + daysBefore year + dayOfYear ∧ 0 ≤ year ∧ year < 400 ∧
      0 ≤ dayOfYear ∧ daysBefore year + dayOfYear < daysBefore (year + 1) := by
  let day := (days + 719468) % 146097
  have h0 : 0 ≤ day := Int.emod_nonneg _ (by decide)
  have h : day < 146097 := Int.emod_lt_of_pos _ (by decide)
  obtain ⟨year, hyear, hlower, hupper, hfirst, hlast⟩ := year_spec h0 h
  have hbefore : daysBefore year = 365 * year + year / 4 - year / 100 := by
    unfold daysBefore
    omega
  refine ⟨(days + 719468) / 146097, year, day - daysBefore year, ?_, ?_, hlower, hupper, ?_, ?_⟩
  · rw [hbefore, ← hyear]
    rfl
  · omega
  · omega
  · omega

theorem toDays_inMonth {era year month day : Int} (hyear : 0 ≤ year ∧ year < 400)
    (hmonth : 0 ≤ month ∧ month < 12) (hday : 1 ≤ day) :
    (inMonth (year + era * 400) month day).toDays =
      era * 146097 + daysBefore year + (daysBeforeMonth month + day - 1) - 719468 := by
  unfold inMonth daysBefore daysBeforeMonth
  by_cases h : month < 10
  · have hlate : ¬ (month + 3).toNat ≤ 2 := by omega
    have htoNat : ((month + 3).toNat : Int) = month + 3 := Int.toNat_of_nonneg (by omega)
    simp only [if_pos h, toDays, if_neg hlate, htoNat]
    omega
  · have hearly : (month - 9).toNat ≤ 2 := by omega
    have htoNat : ((month - 9).toNat : Int) = month - 9 := Int.toNat_of_nonneg (by omega)
    simp only [if_neg h, toDays, if_pos hearly, htoNat]
    omega

theorem exists?_inMonth {year month day : Int} (hmonth : 0 ≤ month ∧ month < 12) (hday : 1 ≤ day)
    (h : day ≤ daysBeforeMonth (month + 1) - daysBeforeMonth month)
    (hleap : month = 11 → day ≤ 28 ∨ day = 29 ∧ isLeap (year + 1) = true) :
    (inMonth year month day).exists? = true := by
  by_cases hlast : month = 11
  · subst hlast
    simp [inMonth, exists?, daysInMonth] at hleap ⊢
    rcases hleap with hday' | ⟨rfl, hyear⟩
    · split <;> omega
    · simp [hyear]
  · have hcases : month = 0 ∨ month = 1 ∨ month = 2 ∨ month = 3 ∨ month = 4 ∨ month = 5 ∨
        month = 6 ∨ month = 7 ∨ month = 8 ∨ month = 9 ∨ month = 10 := by omega
    rcases hcases with rfl | rfl | rfl | rfl | rfl | rfl | rfl | rfl | rfl | rfl | rfl <;>
      simp [inMonth, exists?, daysInMonth, daysBeforeMonth] at h ⊢ <;> omega

theorem toDays_ofDays (days : Int) : (ofDays days).toDays = days := by
  obtain ⟨era, year, dayOfYear, hdate, hdays, hlower, hupper, h0, h⟩ := ofDays_eq days
  have hlast : dayOfYear ≤ 365 := by
    unfold daysBefore at h
    omega
  rw [hdate, ofMarch, toDays_inMonth ⟨hlower, hupper⟩ (by omega) (by unfold daysBeforeMonth; omega)]
  omega

theorem exists?_ofDays (days : Int) : (ofDays days).exists? = true := by
  obtain ⟨era, year, dayOfYear, hdate, hdays, hlower, hupper, h0, h⟩ := ofDays_eq days
  unfold daysBefore at h
  rw [hdate, ofMarch]
  refine exists?_inMonth (by omega) (by unfold daysBeforeMonth; omega)
    (by unfold daysBeforeMonth; omega) fun hmonth => ?_
  rw [hmonth]
  simp only [daysBeforeMonth, isLeap, Bool.and_eq_true, Bool.or_eq_true, beq_iff_eq, bne_iff_ne]
  omega

end Date

end Mailroom.Time
