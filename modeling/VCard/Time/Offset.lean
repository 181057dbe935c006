import VCard.Error
import VCard.Text.Blank
import VCard.Text.Digit
/-! UTC offsets (RFC 6350 §4.7).

An offset is a sign, an hour count and minutes below 60; `-00:00` and `+00:00`
are different offsets. It is written `±hhmm` (basic) or `±hh:mm` (extended), the
hour padded to two digits. It is read from `Z`, or from an optional sign, one or
two digits of hours and optionally two digits of minutes, with or without a
colon before them.

An offset of whole seconds is cut toward the earlier minute
(`UtcOffset.ofSeconds`): `-59` seconds is `-00:01`.

Reading is meant to undo writing for every offset with fewer than 100 hours. -/
namespace VCard

/-- A UTC offset. -/
structure UtcOffset where
  positive : Bool
  hour : Nat
  minute : Nat
  minute_lt : minute < 60 := by omega
  deriving DecidableEq, Repr

namespace UtcOffset

/-- The offset of a sign, hour and minute, checking the minute first. -/
def make (positive : Bool) (hour minute : Int) : Except Error UtcOffset :=
  if h : 0 ≤ minute ∧ minute < 60 then
    if hour < 0 then .error .offsetHourNegative
    else .ok ⟨positive, hour.toNat, minute.toNat, by omega⟩
  else .error (.offsetMinutes minute)

/-- The offset of a signed hour and a minute count. -/
def ofSigned (hour minute : Int) : Except Error UtcOffset := make (hour ≥ 0) hour.natAbs minute

def utc : UtcOffset := ⟨true, 0, 0, by omega⟩

/-- The offset in seconds. -/
def seconds (o : UtcOffset) : Int :=
  let s : Int := o.hour * 3600 + o.minute * 60
  if o.positive then s else -s

/-- The offset of a number of seconds, cut toward the earlier minute. -/
def ofSeconds (s : Int) : UtcOffset :=
  let total := Int.fdiv s 60
  let mag := total.natAbs
  ⟨total ≥ 0, mag / 60, mag % 60, Nat.mod_lt _ (by omega)⟩

/-- A number padded with zeros to at least `width` digits. -/
def pad (width n : Nat) : String :=
  let s := toString n
  "".pushn '0' (width - s.length) ++ s

/-- The written form, basic `±hhmm` or extended `±hh:mm`. -/
def format (o : UtcOffset) (extended : Bool) : String :=
  (if o.positive then "+" else "-") ++ pad 2 o.hour ++ (if extended then ":" else "") ++ pad 2 o.minute

/-- Whether nothing but a final line feed is left. -/
def atEnd (cs : List Char) : Bool := cs.isEmpty || cs == ['\n']

/-- Two digits at the front, as their value. -/
def twoDigits? : List Char → Option (Nat × List Char)
  | a :: b :: rest =>
    match Text.digitValue? a, Text.digitValue? b with
    | some x, some y => some (10 * x + y, rest)
    | _, _ => none
  | _ => none

/-- The minutes after the hour: `:mm`, `mm` or nothing, then the end. -/
def minutesTail? (cs : List Char) : Option (Option Nat) :=
  let withColon := match cs with
    | ':' :: rest => (twoDigits? rest).bind fun (m, r) => if atEnd r then some (some m) else none
    | _ => none
  match withColon with
  | some r => some r
  | none =>
    match (twoDigits? cs).bind fun (m, r) => if atEnd r then some (some m) else none with
    | some r => some r
    | none => if atEnd cs then some none else none

/-- The hour (one or two digits, two tried first) and the minutes. -/
def body? (cs : List Char) : Option (Nat × Option Nat) :=
  let two := (twoDigits? cs).bind fun (h, r) => (minutesTail? r).map (h, ·)
  match two with
  | some r => some r
  | none =>
    match cs with
    | a :: r => (Text.digitValue? a).bind fun h => (minutesTail? r).map (h, ·)
    | [] => none

/-- Reads an offset. -/
def parse (text : String) : Except Error UtcOffset :=
  let t := Text.trim text
  if t == "Z" || t == "z" then .ok utc
  else
    let (positive, rest) := match t.toList with
      | '-' :: r => (false, r)
      | '+' :: r => (true, r)
      | r => (true, r)
    match body? rest with
    | some (h, m) => make positive h (m.getD 0)
    | none => .error (.offsetFormat t)

end UtcOffset

end VCard
