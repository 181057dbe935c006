import VCard.Text.Literal
/-! Failures of the library, one constructor per cause.

Each failure has a *class*, the broad reason a caller reacts to (`Error.category`):
an invalid value, a value out of the representable range, a document that is not
well-formed, an unknown character set, text a character set cannot hold, bytes
it cannot read, another failure of its codec, a value of the wrong type, or a
vCard stream that cannot be framed. The wording of every failure is in one
place, `Error.message`. -/
namespace VCard

/-- The broad reason of a failure. -/
inductive Category where
  /-- A value that the operation does not accept. -/
  | invalid
  /-- A date that leaves the representable years. -/
  | overflow
  /-- An XML document that is not well-formed. -/
  | malformedXml
  /-- A character set name that is not known. -/
  | unknownCharset
  /-- Text with characters a character set lacks. -/
  | unencodable
  /-- Bytes that a character set cannot read. -/
  | undecodable
  /-- Any other failure of a character set's codec. -/
  | codecFailure
  /-- A value of the wrong type. -/
  | wrongType
  /-- A vCard stream whose records cannot be framed. -/
  | framing
  deriving DecidableEq, Repr

/-- A failure of the library. -/
inductive Error where
  | offsetMinutes (minute : Int)
  | offsetHourNegative
  | offsetFormat (text : String)
  | notADate (text : String)
  | yearRange (year : Int)
  | monthRange
  | dayRange
  | hourRange
  | minuteRange
  | secondRange
  | microsecondRange
  /-- A zone offset of a day or more, given as its days and remaining seconds. -/
  | zoneRange (days seconds : Int)
  | dateOverflow
  | yearDayWithoutMonth
  | hourSecondWithoutMinute
  | partialMonth (month : Int)
  | partialDay (day : Int)
  | partialHour (hour : Int)
  | partialMinute (minute : Int)
  | partialSecond (second : Int)
  | offsetWithoutTime
  | emptyTimePart (text : String)
  | notPartialDate (text : String)
  | notGeoUri (text : String)
  | notDataUri
  | dataPayload (reason : String)
  /-- A one-of value given several alternatives at once. -/
  | severalSlots (typeName : String) (slots : List String)
  | parameterNameMissing
  /-- A version name that is not known, given as the literal of what was named. -/
  | unknownVersion (literal : String)
  | notBoolean (setting : String)
  | notPositive (setting : String)
  | notIntegerText (text : String)
  | notIntegerType (typeName : String)
  | infiniteInteger
  | nanInteger
  | unknownCharset (name : String)
  /-- A codec from bytes to bytes named as a character set; `command` is the
  function that would run it. -/
  | notTextEncoding (name command : String)
  | embeddedNull
  | unencodable (message : String)
  | undecodable (message : String)
  | codecFailed (message : String)
  | malformedXml (message : String)
  /-- A vCard stream that cannot be framed, with the line where reading stopped. -/
  | framing (line : Option Nat) (message : String)
  deriving Repr

namespace Error

def category : Error → Category
  | dateOverflow | infiniteInteger => .overflow
  | malformedXml _ => .malformedXml
  | unknownCharset _ | notTextEncoding .. => .unknownCharset
  | unencodable _ => .unencodable
  | undecodable _ => .undecodable
  | codecFailed _ => .codecFailure
  | notIntegerType _ => .wrongType
  | framing .. => .framing
  | _ => .invalid

/-- A zone offset as a duration literal: `datetime.timedelta(days=1, seconds=60)`. -/
def durationLiteral (days seconds : Int) : String :=
  let parts := (if days != 0 then ["days=" ++ toString days] else []) ++
    (if seconds != 0 then ["seconds=" ++ toString seconds] else [])
  "datetime.timedelta(" ++ (if parts.isEmpty then "0" else ", ".intercalate parts) ++ ")"

def message : Error → String
  | offsetMinutes m => "offset minutes must be between 0 and 59: " ++ toString m
  | offsetHourNegative => "offset hour must not be negative; use positive=False"
  | offsetFormat t => "offset is not in a recognised format: " ++ Text.quote t
  | notADate t => "not a date: " ++ Text.quote t
  | yearRange y => "year " ++ toString y ++ " is out of range"
  | monthRange => "month must be in 1..12"
  | dayRange => "day is out of range for month"
  | hourRange => "hour must be in 0..23"
  | minuteRange => "minute must be in 0..59"
  | secondRange => "second must be in 0..59"
  | microsecondRange => "microsecond must be in 0..999999"
  | zoneRange d s =>
    "offset must be a timedelta strictly between -timedelta(hours=24) and timedelta(hours=24), not " ++
      durationLiteral d s ++ "."
  | dateOverflow => "date value out of range"
  | yearDayWithoutMonth => "a year and day without a month is not a valid partial date"
  | hourSecondWithoutMinute => "an hour and second without a minute is not a valid partial time"
  | partialMonth m => "month out of range: " ++ toString m
  | partialDay d => "day out of range: " ++ toString d
  | partialHour h => "hour out of range: " ++ toString h
  | partialMinute m => "minute out of range: " ++ toString m
  | partialSecond s => "second out of range: " ++ toString s
  | offsetWithoutTime => "an offset requires a time component"
  | emptyTimePart t => "partial date has an empty time component: " ++ Text.quote t
  | notPartialDate t => "not a partial date: " ++ Text.quote t
  | notGeoUri t => "not a geo URI: " ++ Text.quote t
  | notDataUri => "not a data URI"
  | dataPayload r => "data URI payload is not base64: " ++ r
  | severalSlots ty slots => ty ++ " holds only one of: " ++ ", ".intercalate slots
  | parameterNameMissing => "parameter names cannot be None"
  | unknownVersion t => "unknown vCard version " ++ t
  | notBoolean n => n ++ " must be true or false"
  | notPositive n => n ++ " must be positive"
  | notIntegerText t => "invalid literal for int() with base 10: " ++ Text.quote t
  | notIntegerType t =>
    "int() argument must be a string, a bytes-like object or a real number, not " ++ Text.quote t
  | infiniteInteger => "cannot convert float infinity to integer"
  | nanInteger => "cannot convert float NaN to integer"
  | unknownCharset n => "unknown encoding: " ++ n
  | notTextEncoding n cmd => "'" ++ n ++ "' is not a text encoding; use " ++ cmd ++ " to handle arbitrary codecs"
  | embeddedNull => "embedded null character"
  | unencodable m => m
  | undecodable m => m
  | codecFailed m => m
  | malformedXml m => m
  | framing none m => m
  | framing (some n) m => "line " ++ toString n ++ ": " ++ m

end Error

end VCard
