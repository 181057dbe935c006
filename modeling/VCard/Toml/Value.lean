import VCard.Number.Shortest
import VCard.Text.Literal
import VCard.Time.Civil
/-! Values of TOML documents, and their two texts.

A TOML value is a string, an integer, a float, a boolean, a date, a time of day,
a date-time (local, or tied to UTC by an offset in minutes), an array or a table
whose members keep their order.

A value has a plain text and a literal text. The plain text of a string is the
string; the plain text of a moment is its ISO form with a blank between date and
time, seconds always written, microseconds only when there are some, and an
offset as `+hh:mm` or `-hh:mm`, a zero offset of either sign being `+00:00`. The
literal text quotes strings, writes `True` and `False`, floats in their shortest
text, arrays as `[a, b]`, tables as `{'k': v}`, and moments as the constructor
calls that build them, `datetime.date(2000, 2, 29)` or
`datetime.datetime(1979, 5, 27, 7, 32, tzinfo=datetime.timezone.utc)`: the
microsecond is left out when it is zero, and then the second when it is zero. The
plain text of anything other than a string or a moment is its literal. -/
namespace VCard.Toml

/-- A time of day to the microsecond. -/
structure Clock where
  hour : Nat
  minute : Nat
  second : Nat
  microsecond : Nat
  deriving DecidableEq, Repr

/-- A date, a time of day, or both; a date-time tied to UTC carries its offset
in minutes. -/
inductive Moment where
  | date (d : Date)
  | time (t : Clock)
  | dateTime (d : Date) (t : Clock) (offset : Option Int)
  deriving DecidableEq, Repr

/-- A TOML value. -/
inductive Value where
  | bool (b : Bool)
  | int (n : Int)
  | float (x : Float)
  | str (s : String)
  | moment (m : Moment)
  | arr (items : List Value)
  | obj (fields : List (String × Value))
  deriving Inhabited

/-- A number padded with zeros to a width. -/
def padded (width n : Nat) : String :=
  let ds := Nat.toDigits 10 n
  String.ofList (List.replicate (width - ds.length) '0' ++ ds)

namespace Clock

/-- `hh:mm:ss`, and `.ffffff` when the microsecond is not zero. -/
def text (t : Clock) : String :=
  padded 2 t.hour ++ ":" ++ padded 2 t.minute ++ ":" ++ padded 2 t.second ++
    (if t.microsecond == 0 then "" else "." ++ padded 6 t.microsecond)

/-- The arguments of a time in a constructor call: hour and minute, then the
second and microsecond as far as they are needed. -/
def arguments (t : Clock) : String :=
  toString t.hour ++ ", " ++ toString t.minute ++
    (if t.microsecond != 0 then ", " ++ toString t.second ++ ", " ++ toString t.microsecond
     else if t.second != 0 then ", " ++ toString t.second
     else "")

end Clock

/-- `yyyy-mm-dd`. -/
def dateText (d : Date) : String :=
  padded 4 d.year ++ "-" ++ padded 2 d.month ++ "-" ++ padded 2 d.day

/-- The arguments of a date in a constructor call. -/
def dateArguments (d : Date) : String :=
  toString d.year ++ ", " ++ toString d.month ++ ", " ++ toString d.day

/-- An offset in minutes as `+hh:mm` or `-hh:mm`. -/
def offsetText (offset : Int) : String :=
  (if offset < 0 then "-" else "+") ++ padded 2 (offset.natAbs / 60) ++ ":" ++ padded 2 (offset.natAbs % 60)

/-- The literal of a fixed offset: UTC by name, any other as its distance in
days and seconds, the days rounded down so the seconds are not negative. -/
def offsetLiteral (offset : Int) : String :=
  if offset == 0 then "datetime.timezone.utc"
  else
    let seconds := offset * 60
    let days := seconds / 86400
    let rest := seconds % 86400
    let parts := (if days != 0 then ["days=" ++ toString days] else []) ++
      (if rest != 0 then ["seconds=" ++ toString rest] else [])
    "datetime.timezone(datetime.timedelta(" ++ ", ".intercalate parts ++ "))"

namespace Moment

/-- The plain text of a moment. -/
def text : Moment → String
  | date d => dateText d
  | time t => t.text
  | dateTime d t offset => dateText d ++ " " ++ t.text ++ (offset.map offsetText).getD ""

/-- The literal text of a moment. -/
def literal : Moment → String
  | date d => "datetime.date(" ++ dateArguments d ++ ")"
  | time t => "datetime.time(" ++ t.arguments ++ ")"
  | dateTime d t offset =>
    "datetime.datetime(" ++ dateArguments d ++ ", " ++ t.arguments ++
      (offset.map fun o => ", tzinfo=" ++ offsetLiteral o).getD "" ++ ")"

end Moment

namespace Value

mutual
/-- The literal text of a value. -/
def literal : Value → String
  | bool true => "True"
  | bool false => "False"
  | int n => toString n
  | float x => Number.floatText x
  | str s => Text.quote s
  | moment m => m.literal
  | arr items => "[" ++ ", ".intercalate (literalItems items) ++ "]"
  | obj fields => "\x7b" ++ ", ".intercalate (literalFields fields) ++ "\x7d"

/-- The literals of array items. -/
def literalItems : List Value → List String
  | [] => []
  | v :: rest => literal v :: literalItems rest

/-- The literals of table members, `'key': value`. -/
def literalFields : List (String × Value) → List String
  | [] => []
  | (k, v) :: rest => (Text.quote k ++ ": " ++ literal v) :: literalFields rest
end

/-- The plain text of a value. -/
def plain : Value → String
  | str s => s
  | moment m => m.text
  | v => literal v

end Value

example : offsetText 0 = "+00:00" := by decide

example : offsetLiteral 330 = "datetime.timezone(datetime.timedelta(seconds=19800))" := by
  decide

example :
    offsetLiteral (-420) = "datetime.timezone(datetime.timedelta(days=-1, seconds=61200))" := by
  decide

end VCard.Toml
