import VCard.Time.Civil
/-! Days counted from 1970-01-01 and the dates they stand for.

`daysFromCivil` and `civilFromDays` count in eras of 400 years (146 097 days)
whose years start on 1 March, so that a leap day is the last day of its year.
Inside an era a day falls in one of four centuries of 36 524 days (the last
one day longer), in one of 25 blocks of four years of 1 461 days (the last
block of a century one day shorter), in one of four years of 365 days (the
last one day longer): `eraDay_blocks` writes a day of the era so, and
`yearOfEra_blocks` says that the closed formula of `civilFromDays` finds the
year of the era from it.

The main statements: every day count stands for a valid date
(`civilFromDays_valid`), and the two functions undo each other, a day count
through its date (`daysFromCivil_civilFromDays`) and a valid date through its
day count (`civilFromDays_daysFromCivil`). -/
namespace VCard

/-! ### Days of an era -/

/-- A day of an era, counted from its first 1 March and short of its last day,
is the day `w` of the year `u` of the four-year block `s` of the century `q`. -/
theorem eraDay_blocks {doe : Int} (h0 : 0 ≤ doe) (h1 : doe < 146096) :
    ∃ q s u w, doe = 36524 * q + 1461 * s + 365 * u + w ∧ (0 ≤ q ∧ q ≤ 3) ∧ (0 ≤ s ∧ s ≤ 24) ∧
      (0 ≤ u ∧ u ≤ 3) ∧ (0 ≤ w ∧ w ≤ 365) ∧ (w = 365 → u = 3 ∧ (s < 24 ∨ q = 3)) := by
  refine ⟨doe / 36524, doe % 36524 / 1461, min (doe % 36524 % 1461 / 365) 3,
    doe % 36524 % 1461 - 365 * min (doe % 36524 % 1461 / 365) 3, ?_, ?_⟩ <;> omega

/-- The closed formula of `civilFromDays` finds the year of the era of a day
from its blocks. -/
theorem yearOfEra_blocks {doe q s u w : Int} (hdoe : doe = 36524 * q + 1461 * s + 365 * u + w)
    (hq : 0 ≤ q ∧ q ≤ 3) (hs : 0 ≤ s ∧ s ≤ 24) (hu : 0 ≤ u ∧ u ≤ 3) (hw : 0 ≤ w ∧ w ≤ 365)
    (hleap : w = 365 → u = 3 ∧ (s < 24 ∨ q = 3)) :
    (doe - doe / 1460 + doe / 36524 - doe / 146096) / 365 = 100 * q + 4 * s + u := by
  by_cases hlast : doe = 146096
  · -- the last day of the era, the 29 February of its four-hundredth year
    obtain ⟨rfl, rfl, rfl⟩ : q = 3 ∧ s = 24 ∧ u = 3 := by omega
    subst hlast
    decide
  have hd1 : doe / 1460 = (24 * q + s + 365 * u + w) / 1460 + (25 * q + s) := by
    rw [show doe = (24 * q + s + 365 * u + w) + (25 * q + s) * 1460 by omega,
      Int.add_mul_ediv_right _ _ (by decide)]
  have hd2 : doe / 36524 = q := by
    rw [show doe = (1461 * s + 365 * u + w) + q * 36524 by omega,
      Int.add_mul_ediv_right _ _ (by decide), Int.ediv_eq_zero_of_lt (by omega) (by omega), Int.zero_add]
  have hd3 : doe / 146096 = 0 := Int.ediv_eq_zero_of_lt (by omega) (by omega)
  -- past a leap day the count by 1460 is one ahead, which the leap day itself absorbs
  have he : (24 * q + s + 365 * u + w) / 1460 = 0 ∨ (24 * q + s + 365 * u + w) / 1460 = 1 := by omega
  rw [hd1, hd2, hd3]
  rcases he with he | he <;> rw [he] <;> omega

/-- The days of an era before its year `100 q + 4 s + u`. -/
theorem daysBeforeYear_blocks {q s u : Int} (hq : 0 ≤ q ∧ q ≤ 3) (hs : 0 ≤ s ∧ s ≤ 24)
    (hu : 0 ≤ u ∧ u ≤ 3) :
    365 * (100 * q + 4 * s + u) + (100 * q + 4 * s + u) / 4 - (100 * q + 4 * s + u) / 100 =
      36524 * q + 1461 * s + 365 * u := by
  obtain ⟨hq0, hq1⟩ := hq
  omega

/-- The year of the era of a day and the day of that year: a year has 365 days,
and a 366th only when the next year is a leap year. -/
theorem yearOfEra_spec {doe : Int} (h0 : 0 ≤ doe) (h1 : doe ≤ 146096) :
    let yoe := (doe - doe / 1460 + doe / 36524 - doe / 146096) / 365
    let doy := doe - (365 * yoe + yoe / 4 - yoe / 100)
    (0 ≤ yoe ∧ yoe ≤ 399) ∧ (0 ≤ doy ∧ doy ≤ 365) ∧
      (doy = 365 → yoe % 4 = 3 ∧ (yoe % 100 ≠ 99 ∨ yoe = 399)) := by
  intro yoe doy
  by_cases hlast : doe = 146096
  · -- the last day of the era, the 29 February of its four-hundredth year
    subst hlast
    decide
  obtain ⟨q, s, u, w, hdoe, hq, hs, hu, hw, hleap⟩ := eraDay_blocks h0 (by omega)
  have hyoe : yoe = 100 * q + 4 * s + u := yearOfEra_blocks hdoe hq hs hu hw hleap
  have hdoy : doy = w := by
    show doe - (365 * yoe + yoe / 4 - yoe / 100) = w
    rw [hyoe, daysBeforeYear_blocks hq hs hu, hdoe]
    exact Int.sub_eq_iff_eq_add'.mpr rfl
  clear_value yoe doy
  subst hdoy hyoe
  omega

/-! ### From a day count to a date -/

/-- `civilFromDays` of a day given by its era and its day of the era. -/
theorem civilFromDays_eq {z era doe : Int} (hz : z + 719468 = era * 146097 + doe) (h0 : 0 ≤ doe)
    (h1 : doe ≤ 146096) :
    civilFromDays z =
      let yoe := (doe - doe / 1460 + doe / 36524 - doe / 146096) / 365
      let doy := doe - (365 * yoe + yoe / 4 - yoe / 100)
      let mp := (5 * doy + 2) / 153
      let m := if mp < 10 then mp + 3 else mp - 9
      (if m ≤ 2 then yoe + era * 400 + 1 else yoe + era * 400, m.toNat, (doy - (153 * mp + 2) / 5 + 1).toNat) := by
  have hera : (z + 719468) / 146097 = era := by
    rw [hz, Int.add_comm, Int.add_mul_ediv_right _ _ (by decide), Int.ediv_eq_zero_of_lt h0 (by omega),
      Int.zero_add]
  have hdoe : z + 719468 - era * 146097 = doe := by omega
  simp only [civilFromDays, hera, hdoe]

/-- What `civilFromDays` computes: the era of the day, the year of the era and
the day of that year counted from 1 March, and the month and day from it. -/
theorem civilFromDays_spec (z : Int) :
    ∃ era yoe doy, (0 ≤ yoe ∧ yoe ≤ 399) ∧ (0 ≤ doy ∧ doy ≤ 365) ∧
      (doy = 365 → yoe % 4 = 3 ∧ (yoe % 100 ≠ 99 ∨ yoe = 399)) ∧
      z + 719468 = era * 146097 + (365 * yoe + yoe / 4 - yoe / 100) + doy ∧
      civilFromDays z =
        (if (if (5 * doy + 2) / 153 < 10 then (5 * doy + 2) / 153 + 3 else (5 * doy + 2) / 153 - 9) ≤ 2
          then yoe + era * 400 + 1 else yoe + era * 400,
         (if (5 * doy + 2) / 153 < 10 then (5 * doy + 2) / 153 + 3 else (5 * doy + 2) / 153 - 9).toNat,
         (doy - (153 * ((5 * doy + 2) / 153) + 2) / 5 + 1).toNat) := by
  have h0 : 0 ≤ (z + 719468) % 146097 := Int.emod_nonneg _ (by decide)
  have h1 : (z + 719468) % 146097 < 146097 := Int.emod_lt_of_pos _ (by decide)
  have hz : z + 719468 = (z + 719468) / 146097 * 146097 + (z + 719468) % 146097 := by
    rw [Int.emod_def]
    omega
  obtain ⟨hyoe, hdoy, hleap⟩ := yearOfEra_spec h0 (by omega)
  exact ⟨_, _, _, hyoe, hdoy, hleap, by omega, civilFromDays_eq hz h0 (by omega)⟩

/-- Every day count stands for a valid date: a month from 1 to 12 and a day of
that month. -/
theorem civilFromDays_valid (z : Int) :
    (1 ≤ (civilFromDays z).2.1 ∧ (civilFromDays z).2.1 ≤ 12) ∧
      (1 ≤ (civilFromDays z).2.2 ∧ (civilFromDays z).2.2 ≤ daysInMonth (civilFromDays z).1 (civilFromDays z).2.1) := by
  obtain ⟨era, yoe, doy, hyoe, hdoy, hleap, -, hc⟩ := civilFromDays_spec z
  rw [hc]
  -- the month of the year from 1 March, and where it starts and ends in the year
  have hmp : 0 ≤ (5 * doy + 2) / 153 ∧ (5 * doy + 2) / 153 ≤ 11 := by omega
  have hfirst : (153 * ((5 * doy + 2) / 153) + 2) / 5 ≤ doy := by omega
  have hnext : doy < (153 * ((5 * doy + 2) / 153 + 1) + 2) / 5 := by omega
  generalize (5 * doy + 2) / 153 = mp at hmp hfirst hnext
  simp only
  refine ⟨⟨by split <;> omega, by split <;> omega⟩, by omega, ?_⟩
  by_cases hfeb : mp = 11
  · -- February comes last: its 29th is the 366th day of a year of the era that
    -- comes before a leap year
    subst hfeb
    have hleapYear : doy = 365 → isLeapYear (yoe + era * 400 + 1) = true := by
      intro h
      have := hleap h
      simp only [isLeapYear, Bool.or_eq_true, Bool.and_eq_true, beq_iff_eq, bne_iff_ne, ne_eq]
      omega
    by_cases hl : isLeapYear (yoe + era * 400 + 1) = true
    · simp [daysInMonth, hl]
      omega
    · have : doy ≠ 365 := fun h => hl (hleapYear h)
      simp [daysInMonth, hl]
      omega
  · -- the other months have the lengths that counting from March gives them
    have : mp = 0 ∨ mp = 1 ∨ mp = 2 ∨ mp = 3 ∨ mp = 4 ∨ mp = 5 ∨ mp = 6 ∨ mp = 7 ∨ mp = 8 ∨ mp = 9 ∨
      mp = 10 := by omega
    rcases this with rfl | rfl | rfl | rfl | rfl | rfl | rfl | rfl | rfl | rfl | rfl <;>
      simp [daysInMonth] at hnext ⊢ <;> omega

/-- Counting the days to the date of a day count gives the count back. -/
theorem daysFromCivil_civilFromDays (z : Int) :
    daysFromCivil (civilFromDays z).1 (civilFromDays z).2.1 (civilFromDays z).2.2 = z := by
  obtain ⟨era, yoe, doy, hyoe, hdoy, -, hz, hc⟩ := civilFromDays_spec z
  rw [hc]
  have hmp : 0 ≤ (5 * doy + 2) / 153 ∧ (5 * doy + 2) / 153 ≤ 11 := by omega
  have hfirst : (153 * ((5 * doy + 2) / 153) + 2) / 5 ≤ doy := by omega
  generalize (5 * doy + 2) / 153 = mp at hmp hfirst
  -- the year of the era and the era are found again from the year
  have hera : (yoe + era * 400) / 400 = era := by
    rw [Int.add_mul_ediv_right _ _ (by decide), Int.ediv_eq_zero_of_lt hyoe.1 (by omega), Int.zero_add]
  simp only [daysFromCivil]
  have hday : (((doy - (153 * mp + 2) / 5 + 1).toNat : Nat) : Int) = doy - (153 * mp + 2) / 5 + 1 := by
    omega
  by_cases hm : mp < 10
  · -- March to December: the year is the year of the era
    have hmonth : (((mp + 3).toNat : Nat) : Int) = mp + 3 := by omega
    simp only [hm, if_true, show ¬ (mp + 3).toNat ≤ 2 by omega, if_false, show ¬ mp + 3 ≤ 2 by omega]
    rw [hera]
    simp only [gt_iff_lt, show 2 < (mp + 3).toNat by omega, if_true, hmonth, hday]
    omega
  · -- January and February close the year of the era, in the next calendar year
    have hmonth : (((mp - 9).toNat : Nat) : Int) = mp - 9 := by omega
    simp only [hm, if_false, show (mp - 9).toNat ≤ 2 by omega, if_true, show mp - 9 ≤ 2 by omega,
      Int.add_sub_cancel]
    rw [hera]
    simp only [gt_iff_lt, show ¬ 2 < (mp - 9).toNat by omega, if_false, hmonth, hday]
    omega

/-! ### From a date to a day count and back -/

/-- The days of a year counted from 1 March: the month `m`, the `mp`-th from
March, starts on its day `(153 mp + 2) / 5`, only 29 February is its 366th day,
and the closed formula of `civilFromDays` finds the month back from any of its
days. -/
theorem dayOfYear_month {y mp : Int} {m d : Nat} (hmp : mp = if m > 2 then (m : Int) - 3 else m + 9)
    (hm : 1 ≤ m ∧ m ≤ 12) (hd : 1 ≤ d ∧ d ≤ daysInMonth y m) :
    (0 ≤ (153 * mp + 2) / 5 + d - 1 ∧ (153 * mp + 2) / 5 + d - 1 ≤ 365) ∧
      ((153 * mp + 2) / 5 + d - 1 = 365 → m = 2 ∧ isLeapYear y = true) ∧
      (5 * ((153 * mp + 2) / 5 + d - 1) + 2) / 153 = mp := by
  by_cases hfeb : m = 2
  · -- February, the last month counted from March, the only one whose length varies
    subst hfeb
    simp only [show ¬ 2 > 2 by omega, if_false] at hmp
    subst hmp
    by_cases hl : isLeapYear y = true
    · simp only [daysInMonth, hl, if_true] at hd
      exact ⟨by omega, fun _ => ⟨rfl, hl⟩, by omega⟩
    · simp [daysInMonth, hl] at hd
      exact ⟨by omega, fun _ => by omega, by omega⟩
  · have : m = 1 ∨ m = 3 ∨ m = 4 ∨ m = 5 ∨ m = 6 ∨ m = 7 ∨ m = 8 ∨ m = 9 ∨ m = 10 ∨ m = 11 ∨
      m = 12 := by omega
    rcases this with rfl | rfl | rfl | rfl | rfl | rfl | rfl | rfl | rfl | rfl | rfl <;>
      simp [daysInMonth] at hmp hd <;> omega

/-- The date of the day count of a valid date is that date. -/
theorem civilFromDays_daysFromCivil {y : Int} {m d : Nat} (hm : 1 ≤ m ∧ m ≤ 12)
    (hd : 1 ≤ d ∧ d ≤ daysInMonth y m) : civilFromDays (daysFromCivil y m d) = (y, m, d) := by
  obtain ⟨mp, hmp⟩ : ∃ mp, mp = if m > 2 then (m : Int) - 3 else m + 9 := ⟨_, rfl⟩
  obtain ⟨hdoy, hleap, hmonth⟩ := dayOfYear_month hmp hm hd
  -- the year counted from March, its era and its year of the era
  obtain ⟨y', hy'⟩ : ∃ y', y' = if m ≤ 2 then y - 1 else y := ⟨_, rfl⟩
  obtain ⟨yoe, hyoe⟩ : ∃ yoe, yoe = y' - y' / 400 * 400 := ⟨_, rfl⟩
  obtain ⟨doe, hdoe⟩ : ∃ doe, doe = yoe * 365 + yoe / 4 - yoe / 100 + ((153 * mp + 2) / 5 + d - 1) :=
    ⟨_, rfl⟩
  have hz : daysFromCivil y m d + 719468 = y' / 400 * 146097 + doe := by
    simp only [daysFromCivil]
    rw [← hmp, ← hy', ← hyoe, hdoe]
    omega
  -- the day of the era in its blocks
  have hblocks : doe = 36524 * (yoe / 100) + 1461 * (yoe % 100 / 4) + 365 * (yoe % 4) +
      ((153 * mp + 2) / 5 + d - 1) := by omega
  have hleap' : (153 * mp + 2) / 5 + d - 1 = 365 →
      yoe % 4 = 3 ∧ (yoe % 100 / 4 < 24 ∨ yoe / 100 = 3) := by
    intro h
    obtain ⟨rfl, hl⟩ := hleap h
    simp only [isLeapYear, Bool.or_eq_true, Bool.and_eq_true, beq_iff_eq, bne_iff_ne, ne_eq] at hl
    simp only [show (2 : Nat) ≤ 2 by omega, if_true] at hy'
    omega
  have hyear : (doe - doe / 1460 + doe / 36524 - doe / 146096) / 365 = yoe := by
    rw [yearOfEra_blocks hblocks (by omega) (by omega) (by omega) hdoy hleap']
    omega
  have hday : doe - (365 * yoe + yoe / 4 - yoe / 100) = (153 * mp + 2) / 5 + d - 1 := by omega
  rw [civilFromDays_eq hz (by omega) (by omega)]
  simp only [hyear, hday, hmonth]
  by_cases hm2 : m ≤ 2
  · -- January and February: the year counted from March is the year before
    simp only [hm2, if_true] at hy'
    simp only [show ¬ m > 2 by omega, if_false] at hmp
    simp only [show ¬ mp < 10 by omega, if_false, show mp - 9 ≤ 2 by omega, if_true, Prod.mk.injEq]
    omega
  · simp only [hm2, if_false] at hy'
    simp only [show m > 2 by omega, if_true] at hmp
    simp only [show mp < 10 by omega, if_true, show ¬ mp + 3 ≤ 2 by omega, if_false, Prod.mk.injEq]
    omega

end VCard
