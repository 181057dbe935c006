import Mathlib
import VCard.Proofs.Vcf.Binary
import VCard.Proofs.Codec.Preference
import VCard.Proofs.Time.Stamp
import VCard.Proofs.Time.Partial
/-! Dates, times, timestamps and time zones written and read back.

A date or date-time is written in the extended form in 3.0 and the basic form
otherwise, a 4.0 partial date in its basic form, a timestamp at UTC, and a time
zone as an offset or, where the version allows, as text. The reader takes a
text where the data type says so, else tries a complete date first and, in 4.0,
a partial one.

`readText_writeText_temporal` follows a value through its text and
`temporal_round_trip` through a whole card; `Codec.temporalBack` says what
comes back. Microseconds are not written, an aware timestamp comes back at UTC
and a date timestamp at midnight UTC, a partial date that is a complete date
comes back as that date, and texts come back with their line ends as LF
(`textDate_line_feed`), a zone text trimmed. -/
namespace VCard

open Text Vcf

/-- Text of characters that are no blank and no backslash: it is its own
trimmed and its own unescaped form. -/
def Bare (s : String) : Prop := ∀ c ∈ s.toList, isBlank c = false ∧ c ≠ '\\'

theorem Bare.unbroken {s : String} (h : Bare s) : Unbroken s.toList :=
  Codec.unbroken_of_not_blank fun c hc => (h c hc).1

theorem Bare.unescape_eq {s : String} (h : Bare s) : unescape s = s :=
  unescape_of_forall fun hc => (h _ hc).2 rfl

theorem Bare.trim_eq {s : String} (h : Bare s) : trim s = s := trim_of_forall fun c hc => (h c hc).1

theorem Bare.append {s t : String} (hs : Bare s) (ht : Bare t) : Bare (s ++ t) := by
  intro c hc
  rw [String.toList_append, List.mem_append] at hc
  exact hc.elim (hs c) (ht c)

theorem Date.bare_format {d : Date} (hv : d.Valid) (hy : 1000 ≤ d.year) (extended : Bool) :
    Bare (d.format extended) := by
  rw [Bare, Date.toList_format hv hy]
  cases extended <;> simp

theorem UtcOffset.bare_format {o : UtcOffset} (h : o.hour < 100) (extended : Bool) : Bare (o.format extended) :=
  fun c hc => ⟨UtcOffset.not_blank_format h extended c hc, fun hb => UtcOffset.backslash_not_mem_format h extended (hb ▸ hc)⟩

theorem DateTime.bare_format {t : DateTime} (hv : t.Valid) (hy : 1000 ≤ t.date.year) (extended : Bool) :
    Bare (t.format extended) := by
  rw [DateTime.format_eq]
  refine Bare.append ?_ ?_
  · rw [Bare, DateTime.toList_formatLocal hv, Date.toList_format hv.date hy]
    cases extended <;> simp
  · unfold DateTime.zoneText
    cases h : t.offset with
    | none => simp [Bare]
    | some o =>
      by_cases ho0 : o = 0
      · subst ho0
        simp [Bare]
        decide
      · simp only
        exact UtcOffset.bare_format (UtcOffset.ofSeconds_hour_lt (hv.offset o h)) extended

/-- Dropping the microseconds, which are not written, a valid date-time of a
four-digit year and an offset of whole minutes reads back from its written form. -/
theorem DateTime.parse_format_drops_microsecond {t : DateTime} (hv : t.Valid) (hy : 1000 ≤ t.date.year)
    (hmin : ∀ o ∈ t.offset, o % 60 = 0) (extended : Bool) :
    Stamp.parse (t.format extended) = .ok (.dateTime { t with microsecond := 0 }) :=
  Stamp.parse_dateTime_format (t := { t with microsecond := 0 })
    ⟨hv.date, hv.hour, hv.minute, hv.second, Nat.zero_le _, hv.offset⟩ hy rfl hmin extended

namespace Codec

/-- What a date, time or zone value comes back as when written and read back. -/
def temporalBack : Value → Value
  | .dateOrTime (.date (.dateTime t)) => .dateOrTime (.date (.dateTime { t with microsecond := 0 }))
  | .dateOrTime (.partialDate p) =>
    -- the reader tries a complete date first
    match Stamp.parse (p.toIso false) with
    | .ok s => .dateOrTime (.date s)
    | .error _ => .dateOrTime (.partialDate p)
  | .dateOrTime (.text s) => .dateOrTime (.text (lineFeeds s))
  | .timestamp (some (.date d)) => .timestamp (some (Stamp.atMidnight (.date d)))
  | .timestamp (some (.dateTime t)) => .timestamp (t.toUtc.toOption.map fun u => .dateTime { u with microsecond := 0 })
  | .timezone (some o) _ => .timezone (some o) none
  | .timezone none (some s) => .timezone none (some (trim (lineFeeds s)))
  | x => x

/-- A date, time or zone value that reads back in version `v` under the codec
of its shape: a date of a four-digit year; a date-time of one, with an offset of
whole minutes; in 4.0, a partial date with a unit, a year of at most four digits
and an offset below 100 hours; a text, without line breaks in 2.1; a timestamp
that is a date or a naive date-time of a four-digit year, or an aware one whose
instant at UTC falls in such a year; an offset below 100 hours, alone in 4.0;
and after 2.1 a zone text. -/
inductive Temporal (v : Version) : Shape → Value → Prop
  | date {d : Date} (hv : d.Valid) (hy : 1000 ≤ d.year) : Temporal v .dateOrTime (.dateOrTime (.date (.date d)))
  | dateTime {t : DateTime} (hv : t.Valid) (hy : 1000 ≤ t.date.year) (hmin : ∀ o ∈ t.offset, o % 60 = 0) :
      Temporal v .dateOrTime (.dateOrTime (.date (.dateTime t)))
  | partialDate {p : PartialDate} (h40 : v = .v40) (hv : p.Valid) (hunit : p.hasDate = true ∨ p.hasTime = true)
      (hy : ∀ y ∈ p.year, 0 ≤ y ∧ y ≤ 9999) (ho : ∀ o ∈ p.offset, o.hour ≤ 99) :
      Temporal v .dateOrTime (.dateOrTime (.partialDate p))
  | text {s : String} (h21 : v = .v21 → Unbroken s.toList) : Temporal v .dateOrTime (.dateOrTime (.text s))
  | stampDate {d : Date} (hv : d.Valid) (hy : 1000 ≤ d.year) : Temporal v .timestamp (.timestamp (some (.date d)))
  | stampLocal {t : DateTime} (hv : t.Valid) (hy : 1000 ≤ t.date.year) (ho : t.offset = none) :
      Temporal v .timestamp (.timestamp (some (.dateTime t)))
  | stampUtc {t u : DateTime} {o : Int} (ho : t.offset = some o) (hu : u.Valid) (hu0 : u.offset = some 0)
      (hy : 1000 ≤ u.date.year) (hw : u.wallSeconds = t.wallSeconds - o) :
      Temporal v .timestamp (.timestamp (some (.dateTime t)))
  | offset {o : UtcOffset} {s : Option String} (h : o.hour ≤ 99) (h40 : v = .v40 → s = none) :
      Temporal v .timezone (.timezone (some o) s)
  | zoneText {s : String} (h21 : v ≠ .v21) : Temporal v .timezone (.timezone none (some s))

theorem Temporal.shape_eq {v : Version} {s : Shape} {x : Value} (h : Temporal v s x) :
    s = .dateOrTime ∨ s = .timestamp ∨ s = .timezone := by
  cases h <;> simp

theorem Temporal.not_address_raw {v : Version} {s : Shape} {x : Value} (h : Temporal v s x) :
    (∀ a, x ≠ .address a) ∧ ∀ t dt, x ≠ .raw t dt := by
  cases h <;> simp

theorem temporalBack_ne_label {v : Version} {s : Shape} {x : Value} (h : Temporal v s x) (l : Option String) :
    temporalBack x ≠ .label l := by
  cases h <;> simp only [temporalBack] <;> (try split) <;> simp

theorem name_of_mem_valueParameter_temporal {c : Codec} {v : Version} {x : Value} (hx : Temporal v c.shape x)
    {d : DataType} (h : d ∈ c.valueParameter x v) : d.name ≠ "" := by
  obtain ⟨name, shape, pref⟩ := c
  cases hx
  case partialDate p h40 _ _ _ _ =>
    -- 4.0 announces no date or time where the default is `date-and-or-time`
    subst h40
    cases hd : p.hasDate <;> cases ht : p.hasTime <;> simp [valueParameter, dataType, defaultDataType, hd, ht] at h
  case offset o s _ h40 =>
    cases v <;> simp [valueParameter, dataType, defaultDataType, h40] at h
    subst h
    decide
  all_goals cases v <;> simp [valueParameter, dataType, defaultDataType, Stamp.hasTime] at h <;> subst h <;> decide

/-! ### Reading each shape -/

section Shapes

variable {name : String} {pref : Bool} {t : String} {dt : Option DataType} {v : Version} {p : Params}
  {types : DataType.Registry}

theorem run'_readText_stamp {s : Stamp} (hdt : dt ≠ some .text) (h : Stamp.parse (unescape t) = .ok s) :
    ((⟨name, .dateOrTime, pref⟩ : Codec).readText t dt).run' v p types =
      ⟨.value (.dateOrTime (.date s)), p, types, []⟩ := by
  simp [readText, readDateOrTime, hdt, h]
  rfl

theorem run'_readText_partial {q : PartialDate} {e : Error} (hdt : dt ≠ some .text)
    (hs : Stamp.parse (unescape t) = .error e) (h : PartialDate.parse (unescape t) = .ok q) :
    ((⟨name, .dateOrTime, pref⟩ : Codec).readText t dt).run' .v40 p types =
      ⟨.value (.dateOrTime (.partialDate q)), p, types, []⟩ := by
  simp [readText, readDateOrTime, hdt, hs, h]
  rfl

theorem run'_readText_dateText (hdt : dt = some .text) :
    ((⟨name, .dateOrTime, pref⟩ : Codec).readText t dt).run' v p types =
      ⟨.value (.dateOrTime (.text (unescape t))), p, types, []⟩ := by
  subst hdt
  rfl

theorem run'_readText_timestamp {s : Stamp} (h : Stamp.parse (unescape t) = .ok s) :
    ((⟨name, .timestamp, pref⟩ : Codec).readText t dt).run' v p types =
      ⟨.value (.timestamp (some (Stamp.atMidnight s))), p, types, []⟩ := by
  simp [readText, h]
  rfl

theorem run'_readText_zoneText (hdt : dt = some .text) :
    ((⟨name, .timezone, pref⟩ : Codec).readText t dt).run' v p types =
      ⟨.value (.timezone none (some (trim (unescape t)))), p, types, []⟩ := by
  subst hdt
  rfl

theorem run'_readText_offset {o : UtcOffset} (hdt : dt ≠ some .text) (h : UtcOffset.parse (trim (unescape t)) = .ok o) :
    ((⟨name, .timezone, pref⟩ : Codec).readText t dt).run' v p types =
      ⟨.value (.timezone (some o) none), p, types, []⟩ := by
  simp [readText, hdt, h]
  rfl

end Shapes

/-- A date-time timestamp is written as its UTC form `u` and, `u` being valid,
of a four-digit year and at an offset of whole minutes, reads back as `u`
without its microseconds. -/
theorem writeText_timestamp_utc {name : String} {pref : Bool} {v : Version} {dt : Option DataType}
    {t u : DateTime} (hutc : t.toUtc = .ok { u with microsecond := t.microsecond }) (hv : u.Valid)
    (hy : 1000 ≤ u.date.year) (hmin : ∀ o ∈ u.offset, o % 60 = 0) :
    ((⟨name, .timestamp, pref⟩ : Codec).writeText (.timestamp (some (.dateTime t))) v).run'.1 =
        .ok (.written (u.format (v == .v30))) ∧
      ∀ p types, ((⟨name, .timestamp, pref⟩ : Codec).readText (u.format (v == .v30)) dt).run' v p types =
        ⟨.value (temporalBack (.timestamp (some (.dateTime t)))), p, types, []⟩ := by
  have hb := DateTime.bare_format hv hy (v == .v30)
  refine ⟨?_, fun p types => ?_⟩
  · change (WriteM.ofExcept (t.toUtc.map (·.format (v == .v30)))).run'.1 = _
    rw [hutc]
    rfl
  · rw [run'_readText_timestamp (by rw [hb.unescape_eq, DateTime.parse_format_drops_microsecond hv hy hmin])]
    simp only [temporalBack, hutc]
    rfl

/-! ### Writing and reading back -/

/-- **A date, time or zone value reads back from the text it is written as.**
The text has no line break, and it reads back, at the data type announced for
it as the reader takes it or at the version's default, as `temporalBack` says. -/
theorem readText_writeText_temporal {c : Codec} {v : Version} {x : Value} (hx : Temporal v c.shape x)
    {typeBack : DataType → DataType} (hback : ∀ d, d.isExtension = false → typeBack d = d) :
    ∃ t, (c.writeText x v).run'.1 = .ok (.written t) ∧ Unbroken t.toList ∧
      ∀ p types, (c.readText t (((c.valueParameter x v).map typeBack).orElse fun _ => c.defaultDataType v)).run'
        v p types = ⟨.value (temporalBack x), p, types, []⟩ := by
  obtain ⟨name, shape, pref⟩ := c
  cases hx with
  | date hv hy =>
    have hb := Date.bare_format hv hy (v == .v30)
    refine ⟨_, rfl, hb.unbroken, fun P types => ?_⟩
    rw [run'_readText_stamp ?_ (by rw [hb.unescape_eq, Stamp.parse_date_format hv hy])]
    · rfl
    · cases v <;> simp [valueParameter, dataType, defaultDataType, Stamp.hasTime]
  | dateTime hv hy hmin =>
    have hb := DateTime.bare_format hv hy (v == .v30)
    refine ⟨_, rfl, hb.unbroken, fun P types => ?_⟩
    rw [run'_readText_stamp ?_ (by rw [hb.unescape_eq, DateTime.parse_format_drops_microsecond hv hy hmin])]
    · rfl
    · cases v <;> simp [valueParameter, dataType, defaultDataType, Stamp.hasTime, hback .dateTime rfl]
  | @partialDate p h40 hv hunit hy ho =>
    subst h40
    have hb : Bare (p.toIso false) := PartialDate.not_blank_not_backslash_toIso hv hy ho false
    refine ⟨_, rfl, hb.unbroken, fun P types => ?_⟩
    have hdt : ((valueParameter ⟨name, .dateOrTime, pref⟩ (.dateOrTime (.partialDate p)) .v40).map typeBack).orElse
        (fun _ => defaultDataType ⟨name, .dateOrTime, pref⟩ .v40) ≠ some .text := by
      cases hd : p.hasDate <;> cases ht : p.hasTime <;> simp [valueParameter, dataType, defaultDataType, hd, ht]
    cases hs : Stamp.parse (p.toIso false) with
    | ok s =>
      rw [run'_readText_stamp hdt (by rw [hb.unescape_eq, hs])]
      simp only [temporalBack, hs]
    | error e =>
      rw [run'_readText_partial hdt (by rw [hb.unescape_eq, hs])
        (by rw [hb.unescape_eq, PartialDate.parse_toIso_of_valid hv false hunit hy ho])]
      simp only [temporalBack, hs]
  | @text s h21 =>
    refine ⟨escapeFor v _, by cases v <;> rfl, unbroken_escapeFor h21, fun P types => ?_⟩
    rw [run'_readText_dateText ?_, unescape_escapeFor h21]
    · rfl
    · cases v <;> simp [valueParameter, dataType, defaultDataType, hback .text rfl]
  | stampDate hv hy =>
    have hb := Date.bare_format hv hy (v == .v30)
    refine ⟨_, rfl, hb.unbroken, fun P types => ?_⟩
    rw [run'_readText_timestamp (by rw [hb.unescape_eq, Stamp.parse_date_format hv hy])]
    rfl
  | @stampLocal t hv hy ho =>
    -- a naive date-time is its own UTC form
    have hutc : t.toUtc = .ok { t with microsecond := t.microsecond } := by simp [DateTime.toUtc, ho]
    obtain ⟨hwrite, hread⟩ := writeText_timestamp_utc hutc hv hy (by simp [ho])
    exact ⟨_, hwrite, (DateTime.bare_format hv hy _).unbroken, hread⟩
  | @stampUtc t u o ho hu hu0 hy hw =>
    obtain ⟨hwrite, hread⟩ := writeText_timestamp_utc (DateTime.toUtc_eq ho hu hu0 hw) hu hy (by simp [hu0])
    exact ⟨_, hwrite, (DateTime.bare_format hu hy _).unbroken, hread⟩
  | offset h h40 =>
    have hb := UtcOffset.bare_format (Nat.lt_succ_of_le h) (v == .v30)
    refine ⟨_, ?_, hb.unbroken, fun P types => ?_⟩
    · cases v
      · rfl
      · rfl
      · rw [h40 rfl]
        rfl
    · rw [run'_readText_offset ?_ (by rw [hb.unescape_eq, hb.trim_eq,
        UtcOffset.parse_format_of_hour_lt _ _ (Nat.lt_succ_of_le h)])]
      · rfl
      · cases v <;> simp_all [valueParameter, dataType, defaultDataType, DataType.isExtension]
  | @zoneText s h21 =>
    have hbreak : v = .v21 → Unbroken s.toList := fun h => absurd h h21
    refine ⟨escapeFor v s, ?_, unbroken_escapeFor hbreak, fun P types => ?_⟩
    · cases v
      · exact absurd rfl h21
      · rfl
      · rfl
    · rw [run'_readText_zoneText ?_, unescape_escapeFor hbreak]
      · rfl
      · cases v <;> simp_all [valueParameter, dataType, defaultDataType, DataType.isExtension]

end Codec

/-! ### A date, time or zone property on a card -/

namespace Vcf

open ContentLine Codec Params

/-- **A date, time or zone value comes back from the text it is written as**,
in every version, as `temporalBack` says: a date as itself, a date-time without
its microseconds, a 4.0 partial date as itself or, when its basic form reads as
a complete date, as that date; a timestamp as the same instant at UTC without
its microseconds, a naive one as itself and a date as midnight UTC; an offset as
itself; a text with its line ends as LF, a zone text trimmed as well. The value
is that of a property written alone on a card and read back with the default
settings, without a warning. It asks that the value be `Temporal`; that the
property's name and group be names, and the property not be named `BEGIN`,
`END` or `VERSION`; that the parameter names be names, no parameter value be
empty and no `TYPE` value hold a comma, and that there be no `ENCODING`; and
that the line written, folded at 75, unfold as one logical line. -/
theorem temporal_round_trip (V : Version) (p : Property)
    (hvalue : Temporal V (defaultIndex.codecFor p.name).shape p.value)
    (hname : IsName p.name) (hkey : Text.upper p.name ∉ ["BEGIN", "END", "VERSION"])
    (hgroup : ∀ g ∈ p.group, IsName g) (hparams : p.params.Portable) (hencoding : p.params.getAll "ENCODING" = [])
    (hfold : ∀ line ∈ ({ version := V } : Writer).propertyLine? { properties := [p] } (some 0) p,
      unfoldsWhole 75 line = true) :
    ∃ text ws, write { version := V } [{ properties := [p] }] = .ok (text, ws) ∧
      ∃ q : Property, Quietly (read defaultIndex {} text) [{ version := V, properties := [q] }] ∧
        q.value = temporalBack p.value := by
  set w : Writer := { version := V }
  set codec := defaultIndex.codecFor p.name
  obtain ⟨t, hwrite, hu, hread⟩ := readText_writeText_temporal hvalue fun _ => w.typeReadBack_known
  obtain ⟨hna, hnr⟩ := hvalue.not_address_raw
  -- only codecs of addresses and of values that may be preferred translate preference
  have hpref : codec.pref = false := by
    cases h : codec.pref
    · rfl
    · have hs := defaultIndex_pref_shape h
      rcases hvalue.shape_eq with hc | hc | hc <;> rw [hc] at hs <;> simp at hs
  have hprep : codec.prepareParams p (some 0) V (some { properties := [p] }) = p.params := by
    unfold prepareParams prepareOwn
    rcases hvalue.shape_eq with hc | hc | hc <;> simp [hpref, hc]
  have hE : ∀ e ∈ p.params.getAll "ENCODING", Text.lower (w.paramValueReadBack e) ≠ "quoted-printable" := by
    rw [hencoding]
    exact fun _ h => absurd h List.not_mem_nil
  obtain ⟨line, hline, hul, hstep⟩ := readProperty_line w {} rfl { properties := [p] } (some 0)
    (codecForProperty_of_unregistered fun s dt h => absurd h (hnr s dt)) rfl hprep rfl hwrite hu hgroup hname hkey
    (hparams.setValueType fun _ => name_of_mem_valueParameter_temporal hvalue) hE
    (fun types => ⟨types, hread _ types⟩) (temporalBack_ne_label hvalue)
  obtain ⟨text, ws, hws, hq⟩ := single_round_trip V p (labelOf_of_ne_address hna) hline (hfold line hline) hul
    fun embedded => hstep _ rfl embedded
  exact ⟨text, ws, hws, _, hq, rfl⟩

/-- A birthday, 17 May 1990. -/
def birthday : Property := Property.make "BDAY" (.dateOrTime (.date (.date ⟨1990, 5, 17⟩)))

-- 3.0 writes a date in the extended form, 2.1 and 4.0 in the basic one
example : ({ version := .v30 } : Writer).propertyLine? { properties := [birthday] } (some 0) birthday =
    some "BDAY:1990-05-17" := by
  decide +kernel

/-- Written in 4.0, a birthday comes back as the same date. -/
theorem birthday_round_trip_v40 :
    ∃ text ws, write { version := .v40 } [{ properties := [birthday] }] = .ok (text, ws) ∧
      ∃ q : Property, Quietly (read defaultIndex {} text) [{ version := .v40, properties := [q] }] ∧
        q.value = birthday.value := by
  have hcodec : (defaultIndex.codecFor birthday.name).shape = .dateOrTime := by decide +kernel
  have hvalue : Temporal .v40 (defaultIndex.codecFor birthday.name).shape birthday.value := by
    rw [hcodec]
    exact .date ⟨by decide, by decide, by decide⟩ (by decide)
  have hline : ({ version := .v40 } : Writer).propertyLine? { properties := [birthday] } (some 0) birthday =
      some "BDAY:19900517" := by decide +kernel
  have hfold : ∀ line ∈ ({ version := .v40 } : Writer).propertyLine? { properties := [birthday] } (some 0) birthday,
      unfoldsWhole 75 line = true := by
    intro line h
    rw [hline, Option.mem_some_iff] at h
    subst h
    decide +kernel
  exact temporal_round_trip .v40 birthday hvalue ((isNameChars_iff _).mp (by decide +kernel)) (by decide +kernel)
    (fun _ h => nomatch h) (Portable.of_entries fun _ h => nomatch h) rfl hfold

/-- **A text date comes back with its carriage returns as line feeds**: 3.0
writes a carriage return as `\n`, which reads back as a line feed. -/
theorem textDate_line_feed :
    write { version := .v30 } [{ properties := [Property.make "BDAY" (.dateOrTime (.text "a\rb"))] }] =
        .ok ("BEGIN:VCARD\r\nVERSION:3.0\r\nBDAY;VALUE=text:a\\nb\r\nEND:VCARD\r\n", []) ∧
      ((read defaultIndex {} "BEGIN:VCARD\r\nVERSION:3.0\r\nBDAY;VALUE=text:a\\nb\r\nEND:VCARD\r\n").run.run
        {}).1.toOption.map (fun cards => cards.map fun c => c.properties.map fun q => match q.value with
          | .dateOrTime (.text s) => some s
          | _ => none) = some [[some "a\nb"]] :=
  ⟨eq_ok_of_toOption (by decide +kernel), by decide +kernel⟩

end Vcf

end VCard
