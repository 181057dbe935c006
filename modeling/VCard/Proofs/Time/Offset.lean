import VCard.Proofs.Time.Digits
/-! Offsets from UTC written and read back.

`UtcOffset.parse_format`: every offset of fewer than 100 hours reads back from
its written form, basic `±hhmm` or extended `±hh:mm`, as itself; `-00:00`
keeps its sign. The two digits of the hour are taken first, so the minutes
that follow, with or without a colon, are never mistaken for part of it.

`UtcOffset.ofSeconds_floor`: an offset given in whole seconds is rounded down
to a whole minute. Its sign is the sign of the seconds, and its size in
minutes is that of the rounded value, so a negative offset that is not a
whole number of minutes lies one minute further from zero than the positive
offset of the same size: the two differ only in sign exactly when the seconds
are a non-zero whole number of minutes. -/
namespace VCard

namespace UtcOffset

open Text

/-- The fields of an offset pass the checks of `make` and give the offset back. -/
theorem make_fields (o : UtcOffset) : make o.positive o.hour o.minute = .ok o := by
  obtain ⟨p, h, m, hm⟩ := o
  have hm' : (0 : Int) ≤ m ∧ (m : Int) < 60 := ⟨Int.natCast_nonneg m, by omega⟩
  simp [make, hm']

theorem toList_format (o : UtcOffset) (extended : Bool) :
    (o.format extended).toList =
      (if o.positive then '+' else '-') ::
        ((pad 2 o.hour).toList ++ ((if extended then [':'] else []) ++ (pad 2 o.minute).toList)) := by
  obtain ⟨p, h, m, hm⟩ := o
  cases p <;> cases extended <;> simp [format]

theorem not_blank_format {o : UtcOffset} (h : o.hour < 100) (extended : Bool) :
    ∀ c ∈ (o.format extended).toList, isBlank c = false := by
  rw [toList_format, toList_pad_two h, toList_pad_two (by have := o.minute_lt; omega)]
  cases o.positive <;> cases extended <;> simp <;> decide

theorem backslash_not_mem_format {o : UtcOffset} (h : o.hour < 100) (extended : Bool) :
    '\\' ∉ (o.format extended).toList := by
  rw [toList_format, toList_pad_two h, toList_pad_two (by have := o.minute_lt; omega)]
  cases o.positive <;> cases extended <;> simp

theorem twoDigits?_pad {n : Nat} (h : n < 100) (rest : List Char) :
    twoDigits? ((pad 2 n).toList ++ rest) = some (n, rest) := by
  simp [toList_pad_two h, twoDigits?]
  omega

/-- The minutes of an offset, with the colon of the extended form or without it,
are read to the end. -/
theorem minutesTail?_pad {m : Nat} (h : m < 60) (extended : Bool) :
    minutesTail? ((if extended then [':'] else []) ++ (pad 2 m).toList) = some (some m) := by
  cases extended <;> simp [minutesTail?, toList_pad_two (by omega : m < 100), twoDigits?, atEnd] <;> omega

theorem body?_pad {h m : Nat} (hh : h < 100) (hm : m < 60) (extended : Bool) :
    body? ((pad 2 h).toList ++ ((if extended then [':'] else []) ++ (pad 2 m).toList)) =
      some (h, some m) := by
  simp [body?, twoDigits?_pad hh, minutesTail?_pad hm]

theorem format_ne_utc (o : UtcOffset) (extended : Bool) :
    (o.format extended == "Z" || o.format extended == "z") = false := by
  -- the written form starts with its sign, and a one-letter text with no sign
  have hz : ∀ c : Char, c ≠ '+' → c ≠ '-' → o.format extended ≠ String.ofList [c] := by
    intro c hp hm heq
    have := congrArg String.toList heq
    rw [toList_format, String.toList_ofList, List.cons.injEq] at this
    cases hs : o.positive <;> simp only [hs] at this
    · exact hm this.1.symm
    · exact hp this.1.symm
  simp only [Bool.or_eq_false_iff, beq_eq_false_iff_ne, ne_eq]
  exact ⟨hz 'Z' (by decide) (by decide), hz 'z' (by decide) (by decide)⟩

/-- An offset of fewer than 100 hours is read back from its written form; the
readers of date-times, partial dates and zones read offsets with it. -/
theorem parse_format_of_hour_lt (o : UtcOffset) (extended : Bool) (h : o.hour < 100) :
    parse (o.format extended) = .ok o := by
  have hbody := body?_pad (h := o.hour) (m := o.minute) h o.minute_lt extended
  simp only [parse, trim_of_forall (not_blank_format h extended), format_ne_utc, Bool.false_eq_true, if_false,
    toList_format]
  cases hp : o.positive with
  | true => simpa [hbody, hp] using make_fields o
  | false => simpa [hbody, hp] using make_fields o

/-- **Every offset of fewer than 100 hours reads back from its written form.** -/
theorem parse_format (o : UtcOffset) (extended : Bool) (h : o.hour ≤ 99) :
    parse (o.format extended) = .ok o := by
  have hbody := body?_pad (h := o.hour) (m := o.minute) (by omega) o.minute_lt extended
  simp only [parse, trim_of_forall (not_blank_format (o := o) (by omega) extended),
    format_ne_utc, Bool.false_eq_true, if_false, toList_format]
  -- the sign is read off the front, and the rest is the hour and minutes
  cases hp : o.positive with
  | true => simpa [hbody, hp] using make_fields o
  | false => simpa [hbody, hp] using make_fields o

/-- The negative zero offset keeps its sign through writing and reading. -/
theorem negativeZero_reads_back :
    (⟨false, 0, 0, by decide⟩ : UtcOffset).hour ≤ 99 ∧
      parse ((⟨false, 0, 0, by decide⟩ : UtcOffset).format true) = .ok ⟨false, 0, 0, by decide⟩ :=
  ⟨by decide, parse_format _ true (by decide)⟩

/-! ### Offsets of whole seconds -/

/-- With a positive divisor the rounding of `ofSeconds` is that of `/` on `Int`. -/
theorem fdiv_sixty (s : Int) : Int.fdiv s 60 = s / 60 := Int.fdiv_eq_ediv_of_nonneg s (by decide)

theorem ofSeconds_positive (s : Int) : (ofSeconds s).positive = true ↔ 0 ≤ s := by
  simp only [ofSeconds, decide_eq_true_eq, fdiv_sixty]
  omega

/-- The hours and minutes of `ofSeconds s` make up the seconds rounded down to a
whole minute, in size. -/
theorem ofSeconds_minutes (s : Int) :
    (ofSeconds s).hour * 60 + (ofSeconds s).minute = (Int.fdiv s 60).natAbs := by
  simp only [ofSeconds]
  omega

/-- A whole number of minutes is kept exactly. -/
theorem seconds_ofSeconds {s : Int} (h : s % 60 = 0) : (ofSeconds s).seconds = s := by
  have hm := ofSeconds_minutes s
  have hp := ofSeconds_positive s
  rw [fdiv_sixty] at hm
  simp only [seconds]
  cases hps : (ofSeconds s).positive <;>
    simp only [hps, Bool.false_eq_true, false_iff, true_iff, Int.not_le, if_false, if_true] at hp ⊢ <;> omega

/-- Less than a day in seconds is an offset of fewer than 100 hours, one that
reads back. -/
theorem ofSeconds_hour_lt {s : Int} (h : -86400 < s ∧ s < 86400) : (ofSeconds s).hour < 100 := by
  have hm := ofSeconds_minutes s
  rw [fdiv_sixty] at hm
  omega

end UtcOffset

end VCard
