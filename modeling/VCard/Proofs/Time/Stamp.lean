import VCard.Proofs.Time.Offset
import VCard.Proofs.Time.Calendar
/-! Complete dates and date-times written and read back.

`Stamp.roundTrip_fourDigitYears`: a valid date, and a valid date-time without
microseconds whose offset is a whole number of minutes, read back from their
written form, basic or extended, as themselves; written in UTC, a date-time
tied to UTC reads back as the valid date-time at offset zero of the same
instant. All of it for years from 1000 on: the year is written unpadded and the
reader asks for four digits, so a year below 1000 does not read back at all
(`year999_unreadable`).

Valid is what `Date.make` and `DateTime.make` accept (`Date.make_eq_ok_iff`,
`DateTime.make_valid`). The reader runs on the written digits as the other
readers of time values do; what follows the seconds is a tail that the zone
reader takes whole (`ZoneTail`). Moving to UTC reads the day count of the
instant back as a date (`DateTime.toUtc_eq`, by `civilFromDays_daysFromCivil`). -/
namespace VCard

open Text UtcOffset

/-! ### Valid dates and date-times -/

/-- The dates `Date.make` builds: a year from 1 to 9999, a month, and a day of
that month. -/
structure Date.Valid (d : Date) : Prop where
  year : 1 ≤ d.year ∧ d.year ≤ 9999
  month : 1 ≤ d.month ∧ d.month ≤ 12
  day : 1 ≤ d.day ∧ d.day ≤ daysInMonth d.year d.month

/-- The date-times `DateTime.make` builds: a valid date, a time of day, and an
offset of less than a day. -/
structure DateTime.Valid (t : DateTime) : Prop where
  date : t.date.Valid
  hour : t.hour ≤ 23
  minute : t.minute ≤ 59
  second : t.second ≤ 59
  microsecond : t.microsecond ≤ 999999
  offset : ∀ o ∈ t.offset, -86400 < o ∧ o < 86400

theorem daysInMonth_le (y : Int) (m : Nat) : daysInMonth y m ≤ 31 := by
  unfold daysInMonth
  split <;> (try split) <;> omega

/-- The month and the day of a valid date are written in two digits. -/
theorem Date.Valid.month_day_lt {d : Date} (hv : d.Valid) : d.month < 100 ∧ d.day < 100 := by
  have := hv.month
  have := hv.day
  have := daysInMonth_le d.year d.month
  omega

theorem checkZone_of_lt {o : Int} (h : -86400 < o ∧ o < 86400) : checkZone o = .ok () := by
  simp only [checkZone, Bool.and_eq_true, decide_eq_true_eq]
  rw [if_pos h]

/-- `Date.make` builds exactly the valid dates, of the fields it is given. -/
theorem Date.make_eq_ok_iff {y m d : Int} {date : Date} :
    Date.make y m d = .ok date ↔
      date.Valid ∧ (date.year : Int) = y ∧ (date.month : Int) = m ∧ (date.day : Int) = d := by
  unfold Date.make
  constructor
  · intro h
    split at h
    · cases h
    split at h
    · cases h
    split at h
    · cases h
    cases h
    rename_i hy hm hd
    simp only [Bool.or_eq_true, decide_eq_true_eq, not_or, Int.not_lt] at hy hm hd
    have hyy : ((y.toNat : Nat) : Int) = y := by omega
    refine ⟨⟨?_, ?_, ?_⟩, ?_, ?_, ?_⟩ <;> dsimp only
    all_goals (try rw [hyy]) <;> omega
  · rintro ⟨⟨hy, hm, hd⟩, rfl, rfl, rfl⟩
    simp only [Bool.or_eq_true, decide_eq_true_eq]
    rw [if_neg (by omega), if_neg (by omega), if_neg (by simp only [Int.toNat_natCast]; omega)]
    rfl

/-- `DateTime.make` gives a valid date-time back from its fields. -/
theorem DateTime.make_valid {t : DateTime} (hv : t.Valid) :
    DateTime.make t.date.year t.date.month t.date.day t.hour t.minute t.second t.microsecond t.offset = .ok t := by
  obtain ⟨date, hour, minute, second, micro, offset⟩ := t
  have hd := Date.make_eq_ok_iff.2 ⟨hv.date, rfl, rfl, rfl⟩
  have hh : ¬ ((hour : Int) < 0 ∨ 23 < (hour : Int)) := by have : hour ≤ 23 := hv.hour; omega
  have hmi : ¬ ((minute : Int) < 0 ∨ 59 < (minute : Int)) := by have : minute ≤ 59 := hv.minute; omega
  have hs : ¬ ((second : Int) < 0 ∨ 59 < (second : Int)) := by have : second ≤ 59 := hv.second; omega
  have hus : ¬ ((micro : Int) < 0 ∨ 999999 < (micro : Int)) := by
    have : micro ≤ 999999 := hv.microsecond; omega
  simp only [DateTime.make, hd, Bool.or_eq_true, decide_eq_true_eq, hh, hmi, hs, hus, if_false]
  cases offset with
  | none => simp [bind, Except.bind, pure, Except.pure]
  | some o => simp [checkZone_of_lt (hv.offset o rfl), bind, Except.bind, pure, Except.pure]

/-! ### The written form -/

@[simp] theorem isBlank_dash : isBlank '-' = false := by decide
@[simp] theorem isBlank_colon : isBlank ':' = false := by decide
@[simp] theorem isBlank_T : isBlank 'T' = false := by decide

/-- A year of four digits is written as its four digits. -/
theorem toList_toString_four {n : Nat} (h1 : 1000 ≤ n) (h2 : n < 10000) :
    (toString n).toList =
      [(n / 1000 % 10).digitChar, (n / 100 % 10).digitChar, (n / 10 % 10).digitChar, (n % 10).digitChar] := by
  have hpad : pad 4 n = toString n := by
    have : (Nat.toDigits 10 n).length = 4 := by
      rw [Nat.toDigits_of_base_le (by decide) (by omega), Nat.toDigits_of_base_le (by decide) (by omega),
        Nat.toDigits_of_base_le (by decide) (by omega), Nat.toDigits_of_lt_base (by omega)]
      rfl
    simp [pad, Nat.repr_eq_ofList_toDigits, this]
    rfl
  rw [← hpad, toList_pad_four h2]

theorem Date.toList_format {d : Date} (hv : d.Valid) (hy : 1000 ≤ d.year) (extended : Bool) :
    (d.format extended).toList =
      [(d.year / 1000 % 10).digitChar, (d.year / 100 % 10).digitChar, (d.year / 10 % 10).digitChar,
        (d.year % 10).digitChar] ++ (if extended then ['-'] else []) ++
      [(d.month / 10 % 10).digitChar, (d.month % 10).digitChar] ++ (if extended then ['-'] else []) ++
      [(d.day / 10 % 10).digitChar, (d.day % 10).digitChar] := by
  simp only [Date.format, pad2, String.toList_append, toList_toString_four hy (by have := hv.year; omega),
    toList_pad_two hv.month_day_lt.1, toList_pad_two hv.month_day_lt.2]
  cases extended <;> rfl

theorem DateTime.toList_formatLocal {t : DateTime} (hv : t.Valid) (extended : Bool) :
    (t.formatLocal extended).toList =
      (t.date.format extended).toList ++ 'T' :: ([(t.hour / 10 % 10).digitChar, (t.hour % 10).digitChar] ++
        (if extended then [':'] else []) ++ [(t.minute / 10 % 10).digitChar, (t.minute % 10).digitChar] ++
        (if extended then [':'] else []) ++ [(t.second / 10 % 10).digitChar, (t.second % 10).digitChar]) := by
  simp only [DateTime.formatLocal, pad2, String.toList_append,
    toList_pad_two (by have := hv.hour; omega : t.hour < 100),
    toList_pad_two (by have := hv.minute; omega : t.minute < 100),
    toList_pad_two (by have := hv.second; omega : t.second < 100)]
  cases extended <;> simp

/-- The text after the time of day: nothing, `Z`, or the offset cut to minutes. -/
def DateTime.zoneText (t : DateTime) (extended : Bool) : String :=
  match t.offset with
  | none => ""
  | some 0 => "Z"
  | some o => (ofSeconds o).format extended

theorem DateTime.format_eq (t : DateTime) (extended : Bool) :
    t.format extended = t.formatLocal extended ++ t.zoneText extended := by
  unfold DateTime.format DateTime.zoneText
  cases t.offset with
  | none => simp
  | some o => by_cases ho : o = 0 <;> simp [ho]

theorem not_blank_formatLocal {t : DateTime} (hv : t.Valid) (hy : 1000 ≤ t.date.year) (extended : Bool) :
    ∀ c ∈ (t.formatLocal extended).toList, isBlank c = false := by
  rw [DateTime.toList_formatLocal hv, Date.toList_format hv.date hy]
  cases extended <;> simp

theorem not_blank_zoneText {t : DateTime} (hv : t.Valid) (extended : Bool) :
    ∀ c ∈ (t.zoneText extended).toList, isBlank c = false := by
  have ho := hv.offset
  unfold DateTime.zoneText
  cases h : t.offset with
  | none => simp
  | some o =>
    by_cases ho0 : o = 0
    · subst ho0
      simp
      decide
    · simp only
      exact not_blank_format (ofSeconds_hour_lt (ho o h)) extended

/-! ### Reading the fields -/

theorem StampFields.read?_date {d : Date} (hv : d.Valid) (hy : 1000 ≤ d.year) (extended : Bool) :
    StampFields.read? (d.format extended).toList = some ⟨d.year, d.month, d.day, none, none⟩ := by
  have hm := hv.month_day_lt
  have hy' := hv.year
  rw [Date.toList_format hv hy]
  cases extended <;> simp [StampFields.read?, atEnd] <;> omega

/-- What may follow the seconds of a complete date-time: a tail that the zone
reader takes whole, giving `z`, and that starts no fraction. -/
structure ZoneTail (cs : List Char) (z : Option String) : Prop where
  suffix : zoneSuffix? cs = some z
  noFraction : ∀ p more, cs = p :: more → p ≠ '.' ∧ p ≠ ','

/-- An offset of fewer than 100 hours is read whole, as the text it was written as. -/
theorem zoneSuffix?_format {o : UtcOffset} (h : o.hour < 100) (extended : Bool) :
    zoneSuffix? (o.format extended).toList = some (some (o.format extended)) := by
  -- the text returned is rebuilt from the characters read
  suffices hs : zoneSuffix? (o.format extended).toList =
      some (some (String.ofList (o.format extended).toList)) by
    rwa [String.ofList_toList] at hs
  have hm : o.minute < 100 := by have := o.minute_lt; omega
  rw [toList_format, toList_pad_two h, toList_pad_two hm]
  cases o.positive <;> cases extended <;> simp [zoneSuffix?, atEnd, isLetter]

theorem zoneTail_nil : ZoneTail [] none := ⟨rfl, by simp⟩

theorem zoneTail_utc : ZoneTail ['Z'] (some "Z") := ⟨rfl, by simp⟩

theorem zoneTail_format {o : UtcOffset} (h : o.hour < 100) (extended : Bool) :
    ZoneTail (o.format extended).toList (some (o.format extended)) := by
  refine ⟨zoneSuffix?_format h extended, ?_⟩
  rw [toList_format]
  cases o.positive <;> simp

theorem DateTime.zoneTail_zoneText {t : DateTime} (hv : t.Valid) (extended : Bool) :
    ZoneTail (t.zoneText extended).toList (t.offset.map fun _ => t.zoneText extended) := by
  have ho := hv.offset
  unfold DateTime.zoneText
  cases h : t.offset with
  | none => exact zoneTail_nil
  | some o =>
    by_cases ho0 : o = 0
    · subst ho0
      simpa using zoneTail_utc
    · simp only [Option.map_some]
      exact zoneTail_format (ofSeconds_hour_lt (ho o h)) extended

/-- The fields of a valid date-time are read back from its date and time of
day, whatever zone tail follows. -/
theorem StampFields.read?_dateTime {t : DateTime} (hv : t.Valid) (hy : 1000 ≤ t.date.year) (extended : Bool)
    {cs : List Char} {z : Option String} (hz : ZoneTail cs z) :
    StampFields.read? ((t.formatLocal extended).toList ++ cs) =
      some ⟨t.date.year, t.date.month, t.date.day, some (t.hour, t.minute, t.second), z⟩ := by
  have hd := hv.date
  have hm := hd.month_day_lt
  have hy' := hd.year
  have hh := hv.hour
  have hmi := hv.minute
  have hs := hv.second
  rw [DateTime.toList_formatLocal hv, Date.toList_format hd hy]
  obtain ⟨hsuffix, hfrac⟩ := hz
  -- the seconds are followed by no fraction, so the tail goes to the zone reader
  cases cs with
  | nil => cases extended <;> simp [StampFields.read?, atEnd, isLetter, hsuffix] <;> omega
  | cons p more =>
    obtain ⟨hdot, hcomma⟩ := hfrac p more rfl
    cases extended <;> simp [StampFields.read?, atEnd, isLetter, hdot, hcomma, hsuffix] <;> omega

/-! ### Reading back -/

theorem Stamp.parse_date_format {d : Date} (hv : d.Valid) (hy : 1000 ≤ d.year) (extended : Bool) :
    Stamp.parse (d.format extended) = .ok (.date d) := by
  have hblank : ∀ c ∈ (d.format extended).toList, isBlank c = false := by
    rw [Date.toList_format hv hy]
    cases extended <;> simp
  simp only [Stamp.parse, trimChars_of_forall hblank, StampFields.read?_date hv hy,
    Date.make_eq_ok_iff.2 ⟨hv, rfl, rfl, rfl⟩]
  rfl

theorem Stamp.parse_dateTime_format {t : DateTime} (hv : t.Valid) (hy : 1000 ≤ t.date.year)
    (hmicro : t.microsecond = 0) (hmin : ∀ o ∈ t.offset, o % 60 = 0) (extended : Bool) :
    Stamp.parse (t.format extended) = .ok (.dateTime t) := by
  have hblank : ∀ c ∈ (t.format extended).toList, isBlank c = false := by
    rw [DateTime.format_eq, String.toList_append]
    intro c hc
    rcases List.mem_append.1 hc with hc | hc
    · exact not_blank_formatLocal hv hy extended c hc
    · exact not_blank_zoneText hv extended c hc
  have hread := StampFields.read?_dateTime hv hy extended (DateTime.zoneTail_zoneText hv extended)
  rw [← String.toList_append, ← DateTime.format_eq] at hread
  have hmake := DateTime.make_valid hv
  simp only [hmicro, Int.natCast_zero] at hmake
  simp only [Stamp.parse, trimChars_of_forall hblank, hread]
  have ho := hv.offset
  unfold DateTime.zoneText
  cases h : t.offset with
  | none =>
    rw [h] at hmake
    simp only [Option.map_none, pure_bind, hmake]
    rfl
  | some o =>
    rw [h] at hmake
    have hb := ho o h
    have hzone := checkZone_of_lt hb
    by_cases ho0 : o = 0
    · -- a zero offset is written `Z`
      subst ho0
      have hZ : UtcOffset.parse "Z" = .ok utc := by
        simp [UtcOffset.parse, trim_of_forall (s := "Z") (by simp; decide)]
      simp only [Option.map_some, hZ]
      simp [bind, Except.bind, pure, Except.pure, seconds, utc, hzone, hmake]
    · simp only [Option.map_some]
      rw [parse_format_of_hour_lt (ofSeconds o) extended (ofSeconds_hour_lt hb)]
      simp [bind, Except.bind, pure, Except.pure, seconds_ofSeconds (hmin o h), hzone, hmake]

/-- Moving a date-time to UTC gives the valid date-time at offset zero of the
same instant, when there is one. -/
theorem DateTime.toUtc_eq {t u : DateTime} {o : Int} (ho : t.offset = some o) (hu : u.Valid)
    (hu0 : u.offset = some 0) (hw : u.wallSeconds = t.wallSeconds - o) :
    t.toUtc = .ok { u with microsecond := t.microsecond } := by
  obtain ⟨⟨y, m, d⟩, hour, minute, second, micro, offset⟩ := u
  obtain ⟨⟨hy, hm, hd⟩, hh, hmi, hs, -, -⟩ := hu
  simp only at hu0 hw hy hm hd hh hmi hs
  subst hu0
  -- the day count of the instant and the seconds into its day
  have hdays : Int.fdiv (t.wallSeconds - o) 86400 = daysFromCivil y m d := by
    rw [← hw, Int.fdiv_eq_ediv_of_nonneg _ (by decide)]
    simp only [wallSeconds]
    omega
  have hrem : t.wallSeconds - o - daysFromCivil y m d * 86400 = hour * 3600 + minute * 60 + second := by
    rw [← hw]
    simp only [wallSeconds]
    omega
  simp only [toUtc, ho, hdays, hrem, civilFromDays_daysFromCivil hm hd]
  rw [if_neg (by simp only [Bool.or_eq_true, decide_eq_true_eq]; omega)]
  simp only [Int.toNat_natCast]
  congr <;> omega

/-- **Dates and date-times of years 1000 to 9999 read back from their written
form.** A valid date reads back as itself; so does a valid date-time without
microseconds whose offset is a whole number of minutes. Written in UTC, a
date-time tied to UTC reads back as the date-time at offset zero of the same
instant, when that is a valid date-time of such a year. -/
theorem Stamp.roundTrip_fourDigitYears (extended : Bool) :
    (∀ d : Date, d.Valid → 1000 ≤ d.year → ∀ utc : Bool,
      ((Stamp.date d).format extended utc).bind Stamp.parse = .ok (.date d)) ∧
    (∀ t : DateTime, t.Valid → 1000 ≤ t.date.year → t.microsecond = 0 → (∀ o ∈ t.offset, o % 60 = 0) →
      ((Stamp.dateTime t).format extended false).bind Stamp.parse = .ok (.dateTime t)) ∧
    (∀ (t u : DateTime) (o : Int), t.offset = some o → u.Valid → u.offset = some 0 → u.microsecond = 0 →
      1000 ≤ u.date.year → u.wallSeconds = t.wallSeconds - o →
      ((Stamp.dateTime t).format extended true).bind Stamp.parse = .ok (.dateTime u)) := by
  refine ⟨fun d hv hy _ => ?_, fun t hv hy hmicro hmin => ?_, fun t u o ho hu hu0 hmicro hy hw => ?_⟩
  · simp only [Stamp.format_date, Except.bind]
    exact Stamp.parse_date_format hv hy extended
  · simp only [Stamp.format, Bool.false_eq_true, if_false, Except.bind]
    exact Stamp.parse_dateTime_format hv hy hmicro hmin extended
  · -- the written form does not show the microseconds kept from `t`
    have hfmt : ({ u with microsecond := t.microsecond } : DateTime).format extended = u.format extended := by
      simp only [DateTime.format, DateTime.formatLocal]
    simp only [Stamp.format, if_true, DateTime.toUtc_eq ho hu hu0 hw, Except.map, hfmt, Except.bind]
    exact Stamp.parse_dateTime_format hu hy hmicro (by simp [hu0]) extended

/-- Half past midnight on New Year's Day an hour east of UTC is half past eleven
on New Year's Eve in UTC, and reads back so. -/
theorem newYear_inUtc :
    (⟨⟨2023, 12, 31⟩, 23, 30, 0, 0, some 0⟩ : DateTime).Valid ∧
      (⟨⟨2023, 12, 31⟩, 23, 30, 0, 0, some 0⟩ : DateTime).wallSeconds =
        (⟨⟨2024, 1, 1⟩, 0, 30, 0, 0, some 3600⟩ : DateTime).wallSeconds - 3600 ∧
      ((Stamp.dateTime ⟨⟨2024, 1, 1⟩, 0, 30, 0, 0, some 3600⟩).format true true).bind Stamp.parse =
        .ok (.dateTime ⟨⟨2023, 12, 31⟩, 23, 30, 0, 0, some 0⟩) := by
  have hu : (⟨⟨2023, 12, 31⟩, 23, 30, 0, 0, some 0⟩ : DateTime).Valid :=
    ⟨⟨by decide, by decide, by decide⟩, by decide, by decide, by decide, by decide, by simp⟩
  have hw : (⟨⟨2023, 12, 31⟩, 23, 30, 0, 0, some 0⟩ : DateTime).wallSeconds =
      (⟨⟨2024, 1, 1⟩, 0, 30, 0, 0, some 3600⟩ : DateTime).wallSeconds - 3600 := by decide
  exact ⟨hu, hw, (Stamp.roundTrip_fourDigitYears true).2.2 _ _ 3600 rfl hu rfl rfl (by decide) hw⟩

/-- The first of January 999 is written with a three-digit year, which the
reader does not take for a date. -/
theorem year999_unreadable :
    (⟨999, 1, 1⟩ : Date).Valid ∧
      ((Stamp.date ⟨999, 1, 1⟩).format true false).bind Stamp.parse = .error (.notADate "999-01-01") :=
  ⟨⟨by decide, by decide, by decide⟩, rfl⟩

end VCard
