import VCard.Proofs.Time.Offset
/-! Truncated dates written and read back.

`PartialDate.parse_toIso`: a partial date that `check` accepts, with at least
one unit, a year of at most four digits and an offset of fewer than 100 hours,
reads back from its written form, basic or extended, as itself.

The readers try the forms of a date part and of a time part in a fixed order
and take the first that matches, and several written forms are prefixes of
others (`--04` of `--0412`, `10` of `1022`, `-22` of `-2233`). The proof runs
each reader on the written form of each shape of date and of time
(`readDate?_dateString`, `readTime?_units`): the forms tried before the right
one stop at a separator, a digit or an offset where they expect something
else. An offset follows the time units as a tail (`OffsetTail`) that every
form of time either reads whole or stops in front of. -/
namespace VCard

namespace PartialDate

open Text UtcOffset

/-- The rules of partial dates that `check` enforces. -/
structure Valid (p : PartialDate) : Prop where
  monthBetween : p.year.isSome → p.day.isSome → p.month.isSome
  minuteBetween : p.hour.isSome → p.second.isSome → p.minute.isSome
  month : inRange 1 12 p.month = true
  day : inRange 1 31 p.day = true
  hour : inRange 0 23 p.hour = true
  minute : inRange 0 59 p.minute = true
  second : inRange 0 60 p.second = true
  offset : p.offset.isSome → p.hasTime = true

/-- `check` accepts exactly the valid partial dates and gives them back unchanged. -/
theorem check_eq_ok_iff {p q : PartialDate} : p.check = .ok q ↔ p.Valid ∧ p = q := by
  -- `check` gives `p` back exactly when each of its eight guards fails
  simp only [check, ite_eq_iff, reduceCtorEq, and_false, false_or, Except.ok.injEq]
  constructor
  · rintro ⟨h1, h2, h3, h4, h5, h6, h7, h8, rfl⟩
    refine ⟨⟨?_, ?_, ?_, ?_, ?_, ?_, ?_, ?_⟩, rfl⟩ <;> simp_all [Option.isSome_iff_ne_none]
  · rintro ⟨⟨hym, hhm, hm, hd, hh, hmi, hs, ho⟩, rfl⟩
    simp_all [Option.isSome_iff_ne_none]

theorem toList_padInt_two {n : Int} (h0 : 0 ≤ n) (h1 : n < 100) :
    (padInt 2 n).toList = [(n.toNat / 10 % 10).digitChar, (n.toNat % 10).digitChar] := by
  rw [padInt_of_nonneg 2 h0, toList_pad_two (by omega)]

theorem toList_padInt_four {n : Int} (h0 : 0 ≤ n) (h1 : n < 10000) :
    (padInt 4 n).toList =
      [(n.toNat / 1000 % 10).digitChar, (n.toNat / 100 % 10).digitChar, (n.toNat / 10 % 10).digitChar,
        (n.toNat % 10).digitChar] := by
  rw [padInt_of_nonneg 4 h0, toList_pad_four (by omega)]

/-! ### The date part -/

/-- The date units of a partial date, without its time. -/
def dateUnits (p : PartialDate) : PartialDate := { year := p.year, month := p.month, day := p.day }

/-- Every shape of date part reads back by the first form that matches it. -/
theorem readDate?_dateString {p : PartialDate} (hv : p.Valid) (hd : p.hasDate = true)
    (hy : ∀ y ∈ p.year, 0 ≤ y ∧ y ≤ 9999) (extended : Bool) :
    readDate? (p.dateString extended).toList = some p.dateUnits := by
  have hm := hv.month
  have hdd := hv.day
  have hb := hv.monthBetween
  obtain ⟨year, month, day, hour, minute, second, offset⟩ := p
  simp only [hasDate] at hd
  simp only at hm hdd hb hy
  -- first the characters of each shape, then the reader run on them
  rcases year with _ | y <;> rcases month with _ | m <;> rcases day with _ | d <;>
    simp [inRange] at hm hdd hb hd hy <;> cases extended <;>
    simp (disch := omega) [dateString, toList_padInt_two, toList_padInt_four] <;>
    simp [dateUnits, readDate?, done?, atEnd] <;>
    omega

theorem not_T_of_mem_dateString {p : PartialDate} (hv : p.Valid) (hy : ∀ y ∈ p.year, 0 ≤ y ∧ y ≤ 9999)
    (extended : Bool) :
    ∀ c ∈ (p.dateString extended).toList, c ≠ 'T' ∧ c ≠ 't' ∧ isBlank c = false ∧ c ≠ '\\' := by
  have hm := hv.month
  have hdd := hv.day
  obtain ⟨year, month, day, hour, minute, second, offset⟩ := p
  simp only at hm hdd hy
  rcases year with _ | y <;> rcases month with _ | m <;> rcases day with _ | d <;>
    simp [inRange] at hm hdd hy <;> cases extended <;>
    simp (disch := omega) [dateString, toList_padInt_two, toList_padInt_four] <;> decide

/-! ### The offset after a time -/

@[simp] theorem offsetSuffix?_nil : offsetSuffix? [] = some none := rfl

@[simp] theorem offsetSuffix?_digitChar (k : Nat) (r : List Char) :
    offsetSuffix? ((k % 10).digitChar :: r) = none := by
  simp [offsetSuffix?, atEnd, isLetter]

@[simp] theorem offsetSuffix?_colon (r : List Char) : offsetSuffix? (':' :: r) = none := by
  simp [offsetSuffix?, atEnd, isLetter]

/-- An offset of fewer than 100 hours is read whole, as the text it was written as. -/
theorem offsetSuffix?_format {o : UtcOffset} (h : o.hour < 100) (extended : Bool) :
    offsetSuffix? (o.format extended).toList = some (some (o.format extended)) := by
  -- the text returned is rebuilt from the characters read
  suffices hs : offsetSuffix? (o.format extended).toList =
      some (some (String.ofList (o.format extended).toList)) by
    rwa [String.ofList_toList] at hs
  have hm : o.minute < 100 := by have := o.minute_lt; omega
  rw [toList_format, toList_pad_two h, toList_pad_two hm]
  cases o.positive <;> cases extended <;> simp [offsetSuffix?, atEnd, isLetter]

/-- What may follow the units of a time: a tail that the offset reader takes
whole, giving `z`, and in front of which a colon or two more digits are not
found. -/
structure OffsetTail (off : List Char) (z : Option String) : Prop where
  suffix : offsetSuffix? off = some z
  noColon : dropOptional ':' off = off
  noDigits : takeDigits? 2 off = none

theorem offsetTail_nil : OffsetTail [] none := ⟨rfl, rfl, rfl⟩

theorem offsetTail_format {o : UtcOffset} (h : o.hour < 100) (extended : Bool) :
    OffsetTail (o.format extended).toList (some (o.format extended)) := by
  refine ⟨offsetSuffix?_format h extended, ?_, ?_⟩ <;>
    · rw [toList_format]
      cases o.positive <;> simp

/-! ### The time part -/

/-- The time units of a partial date, without its date and its offset. -/
def timeUnits (p : PartialDate) : PartialDate := { hour := p.hour, minute := p.minute, second := p.second }

/-- The time part is the time units followed by the offset. -/
theorem timeString_eq (p : PartialDate) (extended : Bool) :
    p.timeString extended =
      p.timeUnits.timeString extended ++ (match p.offset with | some o => o.format extended | none => "") := by
  cases h : p.offset <;> simp [timeString, timeUnits, h]

/-- Every shape of time units, followed by an offset tail, reads back by the
first form that matches it. -/
theorem readTime?_units {p : PartialDate} (hv : p.Valid) (ht : p.hasTime = true) (extended : Bool)
    {off : List Char} {z : Option String} (hoff : OffsetTail off z) :
    readTime? ((p.timeUnits.timeString extended).toList ++ off) = some (p.timeUnits, z) := by
  have hh := hv.hour
  have hmi := hv.minute
  have hs := hv.second
  have hb := hv.minuteBetween
  obtain ⟨year, month, day, hour, minute, second, offset⟩ := p
  simp only [hasTime] at ht
  simp only at hh hmi hs hb
  rcases hour with _ | h <;> rcases minute with _ | m <;> rcases second with _ | s <;>
    simp [inRange] at hh hmi hs hb ht <;> cases extended <;>
    simp (disch := omega) [timeString, timeUnits, toList_padInt_two] <;>
    simp [readTime?, hoff.suffix, hoff.noColon, hoff.noDigits] <;>
    omega

theorem not_blank_not_backslash_timeUnits {p : PartialDate} (hv : p.Valid) (extended : Bool) :
    ∀ c ∈ (p.timeUnits.timeString extended).toList, isBlank c = false ∧ c ≠ '\\' := by
  have hh := hv.hour
  have hmi := hv.minute
  have hs := hv.second
  obtain ⟨year, month, day, hour, minute, second, offset⟩ := p
  simp only at hh hmi hs
  rcases hour with _ | h <;> rcases minute with _ | m <;> rcases second with _ | s <;>
    simp [inRange] at hh hmi hs <;> cases extended <;>
    simp (disch := omega) [timeString, timeUnits, toList_padInt_two] <;> decide

/-! ### Reading the whole -/

theorem toList_toIso (p : PartialDate) (extended : Bool) :
    (p.toIso extended).toList =
      (if p.hasDate then (p.dateString extended).toList else []) ++
        (if p.hasTime then 'T' :: (p.timeString extended).toList else []) := by
  simp only [toIso]
  split <;> split <;> simp

/-- The offset written after the time units. -/
def offsetChars (p : PartialDate) (extended : Bool) : List Char :=
  match p.offset with
  | some o => (o.format extended).toList
  | none => []

theorem toList_timeString (p : PartialDate) (extended : Bool) :
    (p.timeString extended).toList = (p.timeUnits.timeString extended).toList ++ p.offsetChars extended := by
  rw [timeString_eq, String.toList_append, offsetChars]
  cases p.offset <;> rfl

theorem offsetTail_offsetChars {p : PartialDate} (ho : ∀ o ∈ p.offset, o.hour ≤ 99) (extended : Bool) :
    OffsetTail (p.offsetChars extended) (p.offset.map (·.format extended)) := by
  unfold offsetChars
  cases h : p.offset with
  | none => exact offsetTail_nil
  | some o => exact offsetTail_format (by have := ho o h; omega) extended

theorem not_blank_not_backslash_offsetChars {p : PartialDate} (ho : ∀ o ∈ p.offset, o.hour ≤ 99)
    (extended : Bool) : ∀ c ∈ p.offsetChars extended, isBlank c = false ∧ c ≠ '\\' := by
  unfold offsetChars
  cases h : p.offset with
  | none => simp
  | some o =>
    have hlt : o.hour < 100 := by have := ho o h; omega
    intro c hc
    exact ⟨not_blank_format hlt extended c hc, fun hb => backslash_not_mem_format hlt extended (hb ▸ hc)⟩

/-- The time part reads back as the time units and the text of the offset. -/
theorem readTime?_timeString {p : PartialDate} (hv : p.Valid) (ht : p.hasTime = true)
    (ho : ∀ o ∈ p.offset, o.hour ≤ 99) (extended : Bool) :
    readTime? (p.timeString extended).toList = some (p.timeUnits, p.offset.map (·.format extended)) := by
  rw [toList_timeString]
  exact readTime?_units hv ht extended (offsetTail_offsetChars ho extended)

theorem not_blank_not_backslash_toIso {p : PartialDate} (hv : p.Valid) (hy : ∀ y ∈ p.year, 0 ≤ y ∧ y ≤ 9999)
    (ho : ∀ o ∈ p.offset, o.hour ≤ 99) (extended : Bool) :
    ∀ c ∈ (p.toIso extended).toList, isBlank c = false ∧ c ≠ '\\' := by
  intro c hc
  rw [toList_toIso, List.mem_append] at hc
  rcases hc with hc | hc
  · split at hc
    · exact (not_T_of_mem_dateString hv hy extended c hc).2.2
    · simp at hc
  · split at hc
    · rw [List.mem_cons, toList_timeString, List.mem_append] at hc
      rcases hc with rfl | hc | hc
      · decide
      · exact not_blank_not_backslash_timeUnits hv extended c hc
      · exact not_blank_not_backslash_offsetChars ho extended c hc
    · simp at hc

/-- A valid partial date with a unit, a year of at most four digits and an
offset of fewer than 100 hours reads back from its written form. -/
theorem parse_toIso_of_valid {p : PartialDate} (hv : p.Valid) (extended : Bool)
    (hunit : p.hasDate = true ∨ p.hasTime = true) (hyear : ∀ y ∈ p.year, 0 ≤ y ∧ y ≤ 9999)
    (hoffset : ∀ o ∈ p.offset, o.hour ≤ 99) :
    parse (p.toIso extended) = .ok p := by
  have hp : p.check = .ok p := check_eq_ok_iff.2 ⟨hv, rfl⟩
  have hdate := not_T_of_mem_dateString hv hyear extended
  simp only [parse]
  rw [trimChars_of_forall fun c hc => (not_blank_not_backslash_toIso hv hyear hoffset extended c hc).1, toList_toIso]
  have hnoT : ((p.dateString extended).toList).findIdx? (· == 'T') = none := by
    rw [List.findIdx?_eq_none_iff]
    intro c hc
    simpa using (hdate c hc).1
  -- the units read back, put together again with the offset, are `p`
  have hrebuild : ∀ o, p.offset = o →
      (⟨p.year, p.month, p.day, p.hour, p.minute, p.second, o⟩ : PartialDate) = p := by
    rintro o rfl
    rfl
  cases ht : p.hasTime with
  | true =>
    have hTm := readTime?_timeString hv ht hoffset extended
    have hTm0 : (p.timeString extended).toList ≠ [] := fun h => by simp [h, readTime?] at hTm
    cases hd : p.hasDate with
    | true =>
      have hD := readDate?_dateString hv hd hyear extended
      have hD0 : (p.dateString extended).toList ≠ [] := fun h => by simp [h, readDate?] at hD
      simp [hD0, hnoT, hD, hTm, List.findIdx?_cons, dateUnits, timeUnits]
      cases ho : p.offset with
      | none => simp [hrebuild none ho, hp]
      | some o => simp [Except.map, bind, Except.bind, parse_format_of_hour_lt o extended (Nat.lt_succ_of_le (hoffset o ho)), hrebuild _ ho, hp]
    | false =>
      -- no date units: the text starts with the `T`
      obtain ⟨hy, hm, hdd⟩ : p.year = none ∧ p.month = none ∧ p.day = none := by
        simpa [hasDate, and_assoc] using hd
      simp [hTm, List.findIdx?_cons, timeUnits]
      cases ho : p.offset with
      | none =>
        have hp' := hrebuild none ho
        rw [hy, hm, hdd] at hp'
        simp [hp', hp]
      | some o =>
        have hp' := hrebuild _ ho
        rw [hy, hm, hdd] at hp'
        simp [Except.map, bind, Except.bind, parse_format_of_hour_lt o extended (Nat.lt_succ_of_le (hoffset o ho)), hp', hp]
  | false =>
    have hd : p.hasDate = true := by simpa [ht] using hunit
    have hD := readDate?_dateString hv hd hyear extended
    have hD0 : (p.dateString extended).toList ≠ [] := fun h => by simp [h, readDate?] at hD
    have hnot : ((p.dateString extended).toList).findIdx? (· == 't') = none := by
      rw [List.findIdx?_eq_none_iff]
      intro c hc
      simpa using (hdate c hc).2.1
    -- no time units, and so no offset: the text has no `T` and is all date
    obtain ⟨hh, hm, hs⟩ : p.hour = none ∧ p.minute = none ∧ p.second = none := by
      simpa [hasTime, and_assoc] using ht
    have ho : p.offset = none := by
      cases h : p.offset with
      | none => rfl
      | some o => simpa [ht] using hv.offset (by simp [h])
    have hp' := hrebuild none ho
    rw [hh, hm, hs] at hp'
    simp [hd, hD0, hnoT, hnot, hD, dateUnits, hp', hp]

/-- **A valid partial date reads back from its written form.** -/
theorem parse_toIso (p : PartialDate) (extended : Bool) (hp : p.check = .ok p)
    (hunit : p.hasDate = true ∨ p.hasTime = true) (hyear : ∀ y ∈ p.year, 0 ≤ y ∧ y ≤ 9999)
    (hoffset : ∀ o ∈ p.offset, o.hour ≤ 99) :
    parse (p.toIso extended) = .ok p :=
  parse_toIso_of_valid (check_eq_ok_iff.1 hp).1 extended hunit hyear hoffset

/-- The minute `-22` with an offset of five hours east, `T-22+0500`, reads back
as a minute and an offset, not as a minute and a second. -/
theorem minuteOffset_reads_back :
    ({ minute := some 22, offset := some ⟨true, 5, 0, by decide⟩ } : PartialDate).check =
        .ok { minute := some 22, offset := some ⟨true, 5, 0, by decide⟩ } ∧
      parse (({ minute := some 22, offset := some ⟨true, 5, 0, by decide⟩ } : PartialDate).toIso false) =
        .ok { minute := some 22, offset := some ⟨true, 5, 0, by decide⟩ } :=
  ⟨rfl, parse_toIso _ false rfl (by decide) (by simp) (by simp)⟩

end PartialDate

end VCard
