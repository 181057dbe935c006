import VCard.Time.Offset
/-! Calendar dates and date-times (ISO 8601, RFC 6350 §4.3).

A date has a year from 1 to 9999, a month and a day of that month in the
proleptic Gregorian calendar. A date-time adds hour, minute, second, microsecond
and, when it is tied to UTC, an offset of less than a day in seconds. Both are
built only through `Date.make` and `DateTime.make`, which check the fields in the
order year, month, day, hour, minute, second, microsecond.

Complete dates are written `yyyy-mm-dd` or `yyyymmdd`, the year not padded;
date-times add `Thh:mm:ss` or `Thhmmss` and their offset, `Z` for UTC. Written
in UTC, a date-time is first moved to offset zero, which fails when the year
leaves 1..9999.

Days are counted from 1970-01-01 (`daysFromCivil`), and `civilFromDays` undoes
the count; moving to UTC is arithmetic on that count. -/
namespace VCard

/-- Whether a year has 29 February. -/
def isLeapYear (y : Int) : Bool := (y % 4 == 0 && y % 100 != 0) || y % 400 == 0

/-- The number of days of a month. -/
def daysInMonth (y : Int) (m : Nat) : Nat :=
  match m with
  | 2 => if isLeapYear y then 29 else 28
  | 4 | 6 | 9 | 11 => 30
  | _ => 31

/-- A calendar date. -/
structure Date where
  year : Nat
  month : Nat
  day : Nat
  deriving DecidableEq, Repr

/-- A date and time of day, with an offset from UTC in seconds when known. -/
structure DateTime where
  date : Date
  hour : Nat
  minute : Nat
  second : Nat
  microsecond : Nat
  offset : Option Int
  deriving DecidableEq, Repr

/-- A complete date, or a date with a time. -/
inductive Stamp where
  | date (d : Date)
  | dateTime (t : DateTime)
  deriving DecidableEq, Repr

namespace Date

/-- The date of year, month and day, when it exists. -/
def make (y m d : Int) : Except Error Date :=
  if y < 1 || y > 9999 then .error (.yearRange y)
  else if m < 1 || m > 12 then .error .monthRange
  else if d < 1 || d > daysInMonth y m.toNat then .error .dayRange
  else .ok ⟨y.toNat, m.toNat, d.toNat⟩

end Date

/-- Checks that an offset lies strictly within a day. -/
def checkZone (offset : Int) : Except Error Unit :=
  if -86400 < offset && offset < 86400 then .ok ()
  else
    let days := Int.fdiv offset 86400
    .error (.zoneRange days (offset - days * 86400))

namespace DateTime

/-- The date-time of its fields, when they are in range. -/
def make (y m d : Int) (hour minute second micro : Int) (offset : Option Int) :
    Except Error DateTime := do
  let date ← Date.make y m d
  if hour < 0 || hour > 23 then throw .hourRange
  if minute < 0 || minute > 59 then throw .minuteRange
  if second < 0 || second > 59 then throw .secondRange
  if micro < 0 || micro > 999999 then throw .microsecondRange
  match offset with
  | some o => checkZone o
  | none => pure ()
  pure ⟨date, hour.toNat, minute.toNat, second.toNat, micro.toNat, offset⟩

end DateTime

/-- Days from 1970-01-01 to a date. -/
def daysFromCivil (y : Int) (m d : Nat) : Int :=
  let y := if m ≤ 2 then y - 1 else y
  let era := y / 400
  let yoe := y - era * 400
  let mp : Int := if m > 2 then m - 3 else m + 9
  let doy := (153 * mp + 2) / 5 + d - 1
  let doe := yoe * 365 + yoe / 4 - yoe / 100 + doy
  era * 146097 + doe - 719468

/-- The date that is a number of days after 1970-01-01. -/
def civilFromDays (z : Int) : Int × Nat × Nat :=
  let z := z + 719468
  let era := z / 146097
  let doe := z - era * 146097
  let yoe := (doe - doe / 1460 + doe / 36524 - doe / 146096) / 365
  let y := yoe + era * 400
  let doy := doe - (365 * yoe + yoe / 4 - yoe / 100)
  let mp := (5 * doy + 2) / 153
  let d := doy - (153 * mp + 2) / 5 + 1
  let m := if mp < 10 then mp + 3 else mp - 9
  (if m ≤ 2 then y + 1 else y, m.toNat, d.toNat)

namespace DateTime

/-- Seconds since 1970-01-01T00:00 of the wall-clock time, ignoring the offset. -/
def wallSeconds (t : DateTime) : Int :=
  daysFromCivil t.date.year t.date.month t.date.day * 86400 + t.hour * 3600 + t.minute * 60 + t.second

/-- The same instant at offset zero; fails when the year leaves 1..9999. -/
def toUtc (t : DateTime) : Except Error DateTime :=
  match t.offset with
  | none => .ok t
  | some o =>
    let s := t.wallSeconds - o
    let days := Int.fdiv s 86400
    let rem := s - days * 86400
    let (y, m, d) := civilFromDays days
    if y < 1 || y > 9999 then .error .dateOverflow
    else .ok ⟨⟨y.toNat, m, d⟩, (rem / 3600).toNat, (rem % 3600 / 60).toNat, (rem % 60).toNat,
      t.microsecond, some 0⟩

end DateTime

/-- Two-digit padding. -/
def pad2 (n : Nat) : String := UtcOffset.pad 2 n

/-- The date part, the year unpadded. -/
def Date.format (d : Date) (extended : Bool) : String :=
  let sep := if extended then "-" else ""
  toString d.year ++ sep ++ pad2 d.month ++ sep ++ pad2 d.day

/-- The date and time of day without offset. -/
def DateTime.formatLocal (t : DateTime) (extended : Bool) : String :=
  let sep := if extended then ":" else ""
  t.date.format extended ++ "T" ++ pad2 t.hour ++ sep ++ pad2 t.minute ++ sep ++ pad2 t.second

/-- A date-time with its offset: none, `Z` for zero, or the offset cut to minutes. -/
def DateTime.format (t : DateTime) (extended : Bool) : String :=
  let base := t.formatLocal extended
  match t.offset with
  | none => base
  | some 0 => base ++ "Z"
  | some o => base ++ (UtcOffset.ofSeconds o).format extended

/-- The written form of a stamp; with `utc`, a date-time tied to UTC is moved to
offset zero first. -/
def Stamp.format (s : Stamp) (extended utc : Bool) : Except Error String :=
  match s with
  | .date d => .ok (d.format extended)
  | .dateTime t =>
    if utc then (t.toUtc).map (·.format extended)
    else .ok (t.format extended)

/-- Whether a stamp has a time of day. -/
def Stamp.hasTime : Stamp → Bool
  | .date _ => false
  | .dateTime _ => true

/-- Digits at the front, exactly `n` of them, as their value. -/
def takeDigits? (n : Nat) (cs : List Char) : Option (Nat × List Char) :=
  let ds := (cs.take n).filterMap Text.digitValue?
  if ds.length == n && (cs.take n).length == n then some (Text.digitsValue ds, cs.drop n) else none

/-- Drops one optional character. -/
def dropOptional (c : Char) : List Char → List Char
  | d :: rest => if d == c then rest else d :: rest
  | [] => []

/-- The fields of a complete date or date-time in basic or extended form:
`yyyy[-]mm[-]dd`, then optionally `T`, `hh[:]mm`, optionally `[:]ss` with a
fraction after `.` or `,`, and optionally an offset `Z` or `±hh[[:]mm]`. -/
structure StampFields where
  year : Nat
  month : Nat
  day : Nat
  time : Option (Nat × Nat × Nat)
  zone : Option String

/-- Whether a character is the letter, in either case. -/
def isLetter (c : Char) (upper : Char) : Bool := c == upper || c == upper.toLower

/-- The offset suffix of a complete date-time and the end of the text. -/
def zoneSuffix? (cs : List Char) : Option (Option String) :=
  if UtcOffset.atEnd cs then some none
  else match cs with
    | z :: rest => if isLetter z 'Z' && UtcOffset.atEnd rest then some (some "Z")
      else if z == '+' || z == '-' then
        match takeDigits? 2 rest with
        | some (_, r) =>
          let hh := rest.take 2
          let withMinutes : Option (List Char) :=
            match r with
            | ':' :: more => (takeDigits? 2 more).bind fun (_, r2) =>
                if UtcOffset.atEnd r2 then some (z :: hh ++ ':' :: more.take 2) else none
            | _ => (takeDigits? 2 r).bind fun (_, r2) =>
                if UtcOffset.atEnd r2 then some (z :: hh ++ r.take 2) else none
          match withMinutes with
          | some t => some (some (String.ofList t))
          | none => if UtcOffset.atEnd r then some (some (String.ofList (z :: hh))) else none
        | none => none
      else none
    | [] => some none

/-- Reads the fields of a complete date or date-time. -/
def StampFields.read? (cs : List Char) : Option StampFields := do
  let (y, r) ← takeDigits? 4 cs
  let (m, r) ← takeDigits? 2 (dropOptional '-' r)
  let (d, r) ← takeDigits? 2 (dropOptional '-' r)
  if UtcOffset.atEnd r then pure ⟨y, m, d, none, none⟩
  else
    match r with
    | t :: r =>
      if !isLetter t 'T' then none
      else
        let (hh, r) ← takeDigits? 2 r
        let (mm, r) ← takeDigits? 2 (dropOptional ':' r)
        -- Seconds, with an optional fraction that is read and dropped.
        let (ss, r) := match takeDigits? 2 (dropOptional ':' r) with
          | some (ss, r) =>
            match r with
            | p :: more =>
              if (p == '.' || p == ',') && (more.head?.bind Text.digitValue?).isSome then
                (ss, more.dropWhile Text.isDecimal)
              else (ss, r)
            | [] => (ss, r)
          | none => (0, r)
        let zone ← zoneSuffix? r
        pure ⟨y, m, d, some (hh, mm, ss), zone⟩
    | [] => none

/-- Reads a complete date or date-time in basic or extended form. -/
def Stamp.parse (text : String) : Except Error Stamp :=
  match StampFields.read? (Text.trimChars text.toList) with
  | none => .error (.notADate text)
  | some f =>
    match f.time with
    | none => (Date.make f.year f.month f.day).map .date
    | some (hh, mm, ss) => do
      let offset ← match f.zone with
        | none => pure none
        | some z => do
          let o ← UtcOffset.parse z
          checkZone o.seconds
          pure (some o.seconds)
      let t ← DateTime.make f.year f.month f.day hh mm ss 0 offset
      pure (.dateTime t)

theorem Stamp.format_date (d : Date) (extended utc : Bool) :
    (Stamp.date d).format extended utc = .ok (d.format extended) := rfl

end VCard
