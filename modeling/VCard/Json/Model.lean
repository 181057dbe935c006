import VCard.Json.Value
import VCard.Json.Read
import VCard.Card
import VCard.Number.Read
import VCard.Number.Binary
/-! Cards and their values as JSON documents.

Each value is an object whose `type` names its kind (`Text`, `Telephone`,
`StructuredName`, …) and whose other members are its fields, absent ones as
`null`; bytes are lowercase hexadecimal, a date is an object of its fields with
a `kind` of `date` or `datetime`, and parameters are a list of `[name, value]`
pairs. A property has a `name`, `group`, `params` and `value`; a card a
`version`, `properties` and `orphaned_labels`.

Reading a document fails when it has the wrong form (`DecodeFailure.malformed`)
or describes a value that breaks a rule of the model, such as a telephone with
both a text and a URI (`DecodeFailure.invalid`). A member that is `null` counts
as absent. -/
namespace VCard

namespace Json

/-- Why a JSON document does not describe a value. -/
inductive DecodeFailure where
  /-- The document has the wrong form. -/
  | malformed (message : String)
  /-- The document describes a value that breaks a rule of the model. -/
  | invalid (e : Error)

instance : Inhabited DecodeFailure := ⟨.malformed ""⟩

abbrev Decode := Except DecodeFailure

def malformed {α : Type} (m : String) : Decode α := throw (.malformed m)

def checked {α : Type} : Except Error α → Decode α
  | .ok a => pure a
  | .error e => throw (.invalid e)

namespace Value

/-- A member of an object; `null` counts as absent. -/
def member? (o : Value) (k : String) : Option Value :=
  match o.field? k with
  | some .null => none
  | x => x

/-- A member that must be present (it may be `null`). -/
def member (o : Value) (k : String) : Decode Value :=
  match o.field? k with
  | some v => pure v
  | none => malformed ("missing field " ++ k)

def asString : Value → Decode String
  | .str s => pure s
  | _ => malformed "expected a string"

def asInt : Value → Decode Int
  | .int n => pure n
  | _ => malformed "expected an integer"

def asBool : Value → Decode Bool
  | .bool b => pure b
  | _ => malformed "expected a boolean"

def asList : Value → Decode (List Value)
  | .arr xs => pure xs
  | _ => malformed "expected a list"

def asStrings (v : Value) : Decode (List String) := do (← v.asList).mapM asString

/-- A number as a double; text is read as a number too. -/
def asFloat : Value → Decode Float
  | .float x => pure x
  | .int n => pure (Number.Binary.ofDecimal (n < 0) n.natAbs 0)
  | .str s => match Number.parseFloat? s with
    | some x => pure x
    | none => malformed "not a float"
  | _ => malformed "expected a float"

/-- A version named exactly. -/
def asVersion : Value → Decode Version
  | .str "2.1" => pure .v21
  | .str "3.0" => pure .v30
  | .str "4.0" => pure .v40
  | _ => malformed "unknown version"

def optional {α : Type} (f : Value → Decode α) : Option Value → Decode (Option α)
  | none => pure none
  | some v => some <$> f v

def string? (o : Value) (k : String) : Decode (Option String) := optional asString (o.member? k)

def string (o : Value) (k : String) : Decode String := do (← o.member k).asString

def int? (o : Value) (k : String) : Decode (Option Int) := optional asInt (o.member? k)

def bool? (o : Value) (k : String) : Decode (Option Bool) := optional asBool (o.member? k)

/-- A list of texts; absent is empty. -/
def strings (o : Value) (k : String) : Decode (List String) :=
  match o.member? k with
  | some v => v.asStrings
  | none => pure []

def versionOr (o : Value) (k : String) (d : Version) : Decode Version :=
  match o.member? k with
  | some v => v.asVersion
  | none => pure d

/-- How deeply arrays and objects nest. -/
def depth : Value → Nat
  | .arr items => depthItems items + 1
  | .obj fields => depthFields fields + 1
  | _ => 0
where
  depthItems : List Value → Nat
    | [] => 0
    | v :: rest => max v.depth (depthItems rest)
  depthFields : List (String × Value) → Nat
    | [] => 0
    | (_, v) :: rest => max v.depth (depthFields rest)

end Value

/-- Bytes of lowercase hexadecimal text. -/
def hexBytes : List Char → Decode (List UInt8)
  | a :: b :: rest => do
    match hexDigit? a, hexDigit? b with
    | some hi, some lo => return (hi * 16 + lo).toUInt8 :: (← hexBytes rest)
    | _, _ => malformed "bad hex"
  | [] => pure []
  | _ => malformed "bad hex"

/-- Bytes as lowercase hexadecimal. -/
def hexText (bs : List UInt8) : String :=
  String.join (bs.map fun b => String.ofList (Text.hexPadded 2 b.toNat))

/-- A double; the values that are not numbers are written as text. -/
def ofFloat (x : Float) : Value :=
  if x.isNaN then .str "nan" else if x.isInf then .str (if x > 0 then "inf" else "-inf") else .float x

def ofOption {α : Type} (f : α → Value) : Option α → Value
  | some a => f a
  | none => .null

def ofText? : Option String → Value := ofOption .str

def ofTexts (xs : List String) : Value := .arr (xs.map .str)

end Json

open Json

namespace Params

def fromJson (v : Json.Value) : Decode Params := do
  let pairs ← (← v.asList).mapM fun p => do
    match ← p.asList with
    | [n, x] => return (← n.asString, ← x.asString)
    | _ => malformed "bad parameter"
  return ofList pairs

def toJson (p : Params) : Json.Value := .arr (p.entries.map fun (n, v) => .arr [.str n, .str v])

end Params

def UtcOffset.fromJson (o : Json.Value) : Decode UtcOffset := do
  let positive := (← o.bool? "positive").getD true
  checked (UtcOffset.make positive ((← o.int? "hour").getD 0) ((← o.int? "minute").getD 0))

def UtcOffset.toJson (o : UtcOffset) : Json.Value :=
  .obj [("positive", .bool o.positive), ("hour", .int o.hour), ("minute", .int o.minute)]

def Stamp.fromJson (o : Json.Value) : Decode Stamp := do
  let g (k : String) : Decode Int := do return (← o.int? k).getD 0
  match ← o.string "kind" with
  | "date" => return .date (← checked (Date.make (← g "year") (← g "month") (← g "day")))
  | "datetime" =>
    let off ← o.int? "offset_seconds"
    if let some s := off then checked (checkZone s)
    return .dateTime (← checked (DateTime.make (← g "year") (← g "month") (← g "day") (← g "hour")
      (← g "minute") (← g "second") (← g "microsecond") off))
  | _ => malformed "unknown date kind"

def Stamp.toJson : Stamp → Json.Value
  | .date d => .obj [("kind", .str "date"), ("year", .int d.year), ("month", .int d.month), ("day", .int d.day)]
  | .dateTime t => .obj [("kind", .str "datetime"), ("year", .int t.date.year), ("month", .int t.date.month),
      ("day", .int t.date.day), ("hour", .int t.hour), ("minute", .int t.minute), ("second", .int t.second),
      ("microsecond", .int t.microsecond), ("offset_seconds", ofOption .int t.offset)]

def PartialDate.fromJson (o : Json.Value) : Decode PartialDate := do
  let g (k : String) := o.int? k
  checked (PartialDate.check ⟨← g "year", ← g "month", ← g "date", ← g "hour", ← g "minute",
    ← g "second", ← Value.optional UtcOffset.fromJson (o.member? "offset")⟩)

def PartialDate.toJson (p : PartialDate) : Json.Value :=
  let i := ofOption Json.Value.int
  .obj [("year", i p.year), ("month", i p.month), ("date", i p.day), ("hour", i p.hour),
    ("minute", i p.minute), ("second", i p.second), ("offset", ofOption UtcOffset.toJson p.offset)]

def GeoUri.fromJson (o : Json.Value) : Decode GeoUri := do
  return ⟨← (← o.member "latitude").asFloat, ← (← o.member "longitude").asFloat,
    ← Value.optional Json.Value.asFloat (o.member? "altitude")⟩

def GeoUri.toJson (g : GeoUri) : Json.Value :=
  .obj [("latitude", ofFloat g.latitude), ("longitude", ofFloat g.longitude),
    ("altitude", ofOption ofFloat g.altitude)]

def DataType.fromJson (v : Json.Value) : Decode DataType := do return DataType.ofName (← v.asString)

/-! ### Values -/

/-- Reads bytes given as hexadecimal text. -/
def bytesFromJson (v : Json.Value) : Decode (List UInt8) := do hexBytes (← v.asString).toList

mutual
/-- Reads a value; `fuel` bounds the nesting of embedded cards. -/
def Value.decode : Nat → Json.Value → Decode Value
  | 0, _ => malformed "nested too deeply"
  | fuel + 1, o => do
    let s := o.string?
    match ← o.string "type" with
    | "Text" => return .text (← s "value")
    | "Label" => return .label (← s "value")
    | "Xml" => return .xml (← s "value")
    | "RawValue" => return .raw ((← s "value").getD "") (← Value.optional DataType.fromJson (o.member? "data_type"))
    | "Timestamp" => return .timestamp (← Value.optional Stamp.fromJson (o.member? "value"))
    | "TextList" => return .textList (← o.strings "values") ((← s "delimiter").getD ",")
    | "Geo" =>
      let f (k : String) := Value.optional Json.Value.asFloat (o.member? k)
      return .geo (← f "latitude") (← f "longitude")
    | "Gender" => return .gender (← s "sex") (← s "identity")
    | "ClientPidMap" => return .clientPidMap (← o.int? "pid") (← s "uri")
    | "Timezone" => return .timezone (← Value.optional UtcOffset.fromJson (o.member? "offset")) (← s "text")
    | "StructuredName" => return .name ⟨← s "family", ← s "given", ← o.strings "additional",
        ← o.strings "prefixes", ← o.strings "suffixes"⟩
    | "Address" => return .address ⟨← o.strings "po_boxes", ← o.strings "extended", ← o.strings "streets",
        ← o.strings "localities", ← o.strings "regions", ← o.strings "postal_codes", ← o.strings "countries",
        ← s "label"⟩
    | "Telephone" => return .telephone (← checked (Telephone.make (← s "text") (← s "uri")))
    | "Related" => return .related (← checked (Related.make (← s "uri") (← s "text")))
    | "BinaryValue" => return .binary (← checked (Binary.make (← s "url")
        (← Value.optional bytesFromJson (o.member? "data")) (← s "text") (← s "content_type")))
    | "DateOrTime" => return .dateOrTime (← checked (DateOrTime.make
        (← Value.optional Stamp.fromJson (o.member? "date"))
        (← Value.optional PartialDate.fromJson (o.member? "partial")) (← s "text")))
    | "Place" => return .place (← checked (Place.make (← s "text") (← s "uri")
        (← Value.optional GeoUri.fromJson (o.member? "geo"))))
    | "Agent" => return .agent (← checked (Agent.make (← s "url")
        (← Value.optional (Card.decode fuel) (o.member? "vcard"))))
    | _ => malformed "unknown value type"

def Property.decode : Nat → Json.Value → Decode Property
  | 0, _ => malformed "nested too deeply"
  | fuel + 1, o => do
    let params ← match o.member? "params" with
      | some p => Params.fromJson p
      | none => pure {}
    return Property.make (← o.string "name") (← Value.decode fuel (← o.member "value")) params
      (← o.string? "group")

def Card.decode : Nat → Json.Value → Decode Card
  | 0, _ => malformed "nested too deeply"
  | fuel + 1, o => do
    let list (k : String) : Decode (List Property) := do
      match o.member? k with
      | some v => (← v.asList).mapM (Property.decode fuel)
      | none => pure []
    return ⟨← o.versionOr "version" .v30, ← list "properties", ← list "orphaned_labels"⟩
end

def Value.fromJson (o : Json.Value) : Decode Value := Value.decode (o.depth + 1) o

def Property.fromJson (o : Json.Value) : Decode Property := Property.decode (o.depth + 1) o

def Card.fromJson (o : Json.Value) : Decode Card := Card.decode (o.depth + 1) o

/-- A JSON object with a `type` member. -/
def typed (t : String) (fs : List (String × Json.Value)) : Json.Value := .obj (("type", .str t) :: fs)

mutual
def Value.toJson : Value → Json.Value
  | .text v => typed "Text" [("value", ofText? v)]
  | .label v => typed "Label" [("value", ofText? v)]
  | .xml v => typed "Xml" [("value", ofText? v)]
  | .raw v dt => typed "RawValue" [("value", .str v), ("data_type", ofText? (dt.map (·.name)))]
  | .timestamp v => typed "Timestamp" [("value", ofOption Stamp.toJson v)]
  | .textList vs d => typed "TextList" [("values", ofTexts vs), ("delimiter", .str d)]
  | .geo a b => typed "Geo" [("latitude", ofOption ofFloat a), ("longitude", ofOption ofFloat b)]
  | .gender s i => typed "Gender" [("sex", ofText? s), ("identity", ofText? i)]
  | .clientPidMap p u => typed "ClientPidMap" [("pid", ofOption .int p), ("uri", ofText? u)]
  | .timezone o t => typed "Timezone" [("offset", ofOption UtcOffset.toJson o), ("text", ofText? t)]
  | .name n => typed "StructuredName" [("family", ofText? n.family), ("given", ofText? n.given),
      ("additional", ofTexts n.additional), ("prefixes", ofTexts n.prefixes), ("suffixes", ofTexts n.suffixes)]
  | .address a => typed "Address" [("po_boxes", ofTexts a.poBoxes), ("extended", ofTexts a.extended),
      ("streets", ofTexts a.streets), ("localities", ofTexts a.localities), ("regions", ofTexts a.regions),
      ("postal_codes", ofTexts a.postalCodes), ("countries", ofTexts a.countries), ("label", ofText? a.label)]
  | .telephone t => typed "Telephone" [("text", ofText? t.text?), ("uri", ofText? t.uri?)]
  | .related r => typed "Related" [("uri", ofText? r.uri?), ("text", ofText? r.text?)]
  | .binary b => typed "BinaryValue" [("url", ofText? b.url?), ("data", ofText? (b.data?.map hexText)),
      ("text", ofText? b.text?), ("content_type", ofText? b.contentType)]
  | .dateOrTime d => typed "DateOrTime" [("date", ofOption Stamp.toJson d.date?),
      ("partial", ofOption PartialDate.toJson d.partialDate?), ("text", ofText? d.text?),
      ("has_time", .bool d.hasTime)]
  | .place p => typed "Place" [("text", ofText? p.text?), ("uri", ofText? p.uri?),
      ("geo", ofOption GeoUri.toJson p.geo?)]
  | .agent a => Agent.toJson a

def Agent.toJson : Agent → Json.Value
  | .empty => typed "Agent" [("url", .null), ("vcard", .null)]
  | .url u => typed "Agent" [("url", .str u), ("vcard", .null)]
  | .card c => typed "Agent" [("url", .null), ("vcard", Card.toJson c)]

def Property.toJson : Property → Json.Value
  | ⟨group, name, params, value⟩ =>
    .obj [("name", .str name), ("group", ofText? group), ("params", params.toJson), ("value", value.toJson)]

def Property.listToJson : List Property → List Json.Value
  | [] => []
  | p :: rest => p.toJson :: Property.listToJson rest

def Card.toJson : Card → Json.Value
  | ⟨version, props, orphans⟩ =>
    .obj [("version", .str version.text), ("properties", .arr (Property.listToJson props)),
      ("orphaned_labels", .arr (Property.listToJson orphans))]
end

end VCard
