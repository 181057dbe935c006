import VCard.Time.Civil
/-! Truncated dates and times (RFC 6350 §4.3.1 to §4.3.4).

A partial date keeps only some of year, month, day, hour, minute and second, and
an offset when it has a time: `--0412` is the twelfth of April of no year, `T10`
ten o'clock, `---12` the twelfth of any month. It must not skip a unit between a
year and a day or between an hour and a second, and each unit must be in range
(seconds up to 60, for a leap second).

The written form puts the date part (`yyyy`, `yyyy-mm`, `yyyymmdd`, `--mm`,
`--mmdd`, `---dd`) before a `T` and the time part (`hh`, `hhmm`, `hhmmss`, `-mm`,
`-mmss`, `--ss`) with its offset after it; the extended form adds `-` and `:`
between units. Reading accepts every such form, either separator style, `T` or
`t`, and offsets of one or two hour digits.

Reading is meant to undo writing for every valid partial date with at least one
unit; `readDate?` and `readTime?` try the forms in the order listed above. -/
namespace VCard

/-- A truncated date and time. -/
structure PartialDate where
  year : Option Int := none
  month : Option Int := none
  day : Option Int := none
  hour : Option Int := none
  minute : Option Int := none
  second : Option Int := none
  offset : Option UtcOffset := none
  deriving DecidableEq, Repr

namespace PartialDate

def hasDate (p : PartialDate) : Bool := p.year.isSome || p.month.isSome || p.day.isSome

def hasTime (p : PartialDate) : Bool := p.hour.isSome || p.minute.isSome || p.second.isSome

/-- Whether a unit lies in its range. -/
def inRange (lo hi : Int) : Option Int → Bool
  | none => true
  | some v => lo ≤ v && v ≤ hi

/-- Checks the rules of partial dates, in a fixed order. -/
def check (p : PartialDate) : Except Error PartialDate :=
  if p.year.isSome && p.day.isSome && p.month.isNone then .error .yearDayWithoutMonth
  else if p.hour.isSome && p.second.isSome && p.minute.isNone then .error .hourSecondWithoutMinute
  else if !inRange 1 12 p.month then .error (.partialMonth (p.month.getD 0))
  else if !inRange 1 31 p.day then .error (.partialDay (p.day.getD 0))
  else if !inRange 0 23 p.hour then .error (.partialHour (p.hour.getD 0))
  else if !inRange 0 59 p.minute then .error (.partialMinute (p.minute.getD 0))
  else if !inRange 0 60 p.second then .error (.partialSecond (p.second.getD 0))
  else if p.offset.isSome && !p.hasTime then .error .offsetWithoutTime
  else .ok p

/-- A number with zero padding to a width, the sign counted in it. -/
def padInt (width : Nat) (n : Int) : String :=
  if n < 0 then
    let s := toString n.natAbs
    "-" ++ "".pushn '0' (width - 1 - s.length) ++ s
  else
    let s := toString n.toNat
    "".pushn '0' (width - s.length) ++ s

def dateString (p : PartialDate) (extended : Bool) : String :=
  let dash := if extended then "-" else ""
  match p.year, p.month, p.day with
  | some y, none, _ => padInt 4 y
  | some y, some m, none => padInt 4 y ++ "-" ++ padInt 2 m
  | some y, some m, some d => padInt 4 y ++ dash ++ padInt 2 m ++ dash ++ padInt 2 d
  | none, some m, none => "--" ++ padInt 2 m
  | none, some m, some d => "--" ++ padInt 2 m ++ dash ++ padInt 2 d
  | none, none, d => "---" ++ padInt 2 (d.getD 0)

def timeString (p : PartialDate) (extended : Bool) : String :=
  let colon := if extended then ":" else ""
  let base := match p.hour, p.minute, p.second with
    | some h, none, _ => padInt 2 h
    | some h, some mi, none => padInt 2 h ++ colon ++ padInt 2 mi
    | some h, some mi, some s => padInt 2 h ++ colon ++ padInt 2 mi ++ colon ++ padInt 2 s
    | none, some mi, none => "-" ++ padInt 2 mi
    | none, some mi, some s => "-" ++ padInt 2 mi ++ colon ++ padInt 2 s
    | none, none, s => "--" ++ padInt 2 (s.getD 0)
  base ++ match p.offset with
    | some o => o.format extended
    | none => ""

/-- The written form, basic or extended. -/
def toIso (p : PartialDate) (extended : Bool) : String :=
  (if p.hasDate then p.dateString extended else "") ++
    (if p.hasTime then "T" ++ p.timeString extended else "")

/-! ### Reading -/

/-- Exactly the text left must be the end (a final line feed allowed). -/
def done? (cs : List Char) : Option Unit := if UtcOffset.atEnd cs then some () else none

/-- The date forms, tried in order. -/
def readDate? (cs : List Char) : Option PartialDate :=
  let yearOnly := do
    let (y, r) ← takeDigits? 4 cs
    done? r
    pure { year := some (y : Int) }
  let yearMonth := do
    let (y, r) ← takeDigits? 4 cs
    match r with
    | '-' :: r =>
      let (m, r) ← takeDigits? 2 r
      done? r
      pure { year := some (y : Int), month := some (m : Int) }
    | _ => none
  let full := do
    let (y, r) ← takeDigits? 4 cs
    let (m, r) ← takeDigits? 2 (dropOptional '-' r)
    let (d, r) ← takeDigits? 2 (dropOptional '-' r)
    done? r
    pure { year := some (y : Int), month := some (m : Int), day := some (d : Int) }
  let monthDay := do
    match cs with
    | '-' :: '-' :: r =>
      let (m, r) ← takeDigits? 2 r
      let (d, r) ← takeDigits? 2 (dropOptional '-' r)
      done? r
      pure { month := some (m : Int), day := some (d : Int) }
    | _ => none
  let monthOnly := do
    match cs with
    | '-' :: '-' :: r =>
      let (m, r) ← takeDigits? 2 r
      done? r
      pure { month := some (m : Int) }
    | _ => none
  let dayOnly := do
    match cs with
    | '-' :: '-' :: '-' :: r =>
      let (d, r) ← takeDigits? 2 r
      done? r
      pure { day := some (d : Int) }
    | _ => none
  yearOnly <|> yearMonth <|> full <|> monthDay <|> monthOnly <|> dayOnly

/-- The offset after a partial time: `Z`, or a sign, one or two hour digits and
optionally two minute digits after an optional colon; then the end. The text of
the offset is returned, tried in the order a backtracking reader tries it. -/
def offsetSuffix? (cs : List Char) : Option (Option String) :=
  if UtcOffset.atEnd cs then some none
  else match cs with
    | z :: rest =>
      if isLetter z 'Z' then (if UtcOffset.atEnd rest then some (some "Z") else none)
      else if z == '+' || z == '-' then
        let tails (hh : List Char) (r : List Char) : Option (Option String) :=
          let withColon := match r with
            | ':' :: more => (takeDigits? 2 more).bind fun (_, r2) =>
                if UtcOffset.atEnd r2 then some (z :: hh ++ ':' :: more.take 2) else none
            | _ => none
          let plain := (takeDigits? 2 r).bind fun (_, r2) =>
            if UtcOffset.atEnd r2 then some (z :: hh ++ r.take 2) else none
          let bare := if UtcOffset.atEnd r then some (z :: hh) else none
          (withColon <|> plain <|> bare).map (some ∘ String.ofList)
        let two := (takeDigits? 2 rest).bind fun (_, r) => tails (rest.take 2) r
        let one := (takeDigits? 1 rest).bind fun (_, r) => tails (rest.take 1) r
        two <|> one
      else none
    | [] => some none

/-- The time forms, tried in order; each may end in an offset. -/
def readTime? (cs : List Char) : Option (PartialDate × Option String) :=
  let finish (p : PartialDate) (r : List Char) : Option (PartialDate × Option String) :=
    (offsetSuffix? r).map (p, ·)
  let hourOnly := do
    let (h, r) ← takeDigits? 2 cs
    finish { hour := some (h : Int) } r
  let hourMinute := do
    let (h, r) ← takeDigits? 2 cs
    let (mi, r) ← takeDigits? 2 (dropOptional ':' r)
    finish { hour := some (h : Int), minute := some (mi : Int) } r
  let full := do
    let (h, r) ← takeDigits? 2 cs
    let (mi, r) ← takeDigits? 2 (dropOptional ':' r)
    let (s, r) ← takeDigits? 2 (dropOptional ':' r)
    finish { hour := some (h : Int), minute := some (mi : Int), second := some (s : Int) } r
  let minuteSecond := do
    match cs with
    | '-' :: r =>
      let (mi, r) ← takeDigits? 2 r
      let (s, r) ← takeDigits? 2 (dropOptional ':' r)
      finish { minute := some (mi : Int), second := some (s : Int) } r
    | _ => none
  let minuteOnly := do
    match cs with
    | '-' :: r =>
      let (mi, r) ← takeDigits? 2 r
      finish { minute := some (mi : Int) } r
    | _ => none
  let secondOnly := do
    match cs with
    | '-' :: '-' :: r =>
      let (s, r) ← takeDigits? 2 r
      finish { second := some (s : Int) } r
    | _ => none
  hourOnly <|> hourMinute <|> full <|> minuteSecond <|> minuteOnly <|> secondOnly

/-- Reads a partial date. -/
def parse (text : String) : Except Error PartialDate := do
  let t := Text.trimChars text.toList
  let whole := String.ofList t
  let split := match t.findIdx? (· == 'T') with
    | some i => some i
    | none => t.findIdx? (· == 't')
  let (datePart, timePart) := match split with
    | some i => (t.take i, some (t.drop (i + 1)))
    | none => (t, none)
  let dateFields ← if datePart.isEmpty then pure none
    else match readDate? datePart with
      | some p => pure (some p)
      | none => throw (.notPartialDate whole)
  let timeFields ← match timePart with
    | none => pure none
    | some [] => throw (.emptyTimePart whole)
    | some tp =>
      match readTime? tp with
      | some (p, zone) =>
        let offset ← match zone with
          | some z => (UtcOffset.parse z).map some
          | none => pure none
        pure (some { p with offset := offset })
      | none => throw (.notPartialDate whole)
  match dateFields, timeFields with
  | none, none => throw (.notPartialDate whole)
  | d, t =>
    let d := d.getD {}
    let t := t.getD {}
    check { year := d.year, month := d.month, day := d.day, hour := t.hour,
            minute := t.minute, second := t.second, offset := t.offset }

/-- Whether a partial date has no unit at all. -/
def isEmpty (p : PartialDate) : Bool := !p.hasDate && !p.hasTime && p.offset.isNone

end PartialDate

end VCard
