import VCard.Error
import VCard.Number.Fixed
import VCard.Number.Read
import VCard.Text.Blank
import VCard.Text.Case
/-! `geo:` URIs (RFC 5870) for coordinates.

A geo URI holds a latitude, a longitude and optionally an altitude, each written
with up to six decimals and no trailing zeros: `geo:37.386013,-122.082932`.
Reading accepts `geo:` in any case, blanks around the numbers and commas, an
optional minus sign, digits of any script with an optional fraction, and ignores
URI parameters after a `;`. -/
namespace VCard

/-- Coordinates with an optional altitude. -/
structure GeoUri where
  latitude : Float
  longitude : Float
  altitude : Option Float := none

/-- The decimals a coordinate is written with. -/
def coordinateText (x : Float) : String := Number.trimmedFixed x 6

/-- A decimal number `-?d+(.d+)?` at the front: its text and the rest. -/
def decimalPrefix? (cs : List Char) : Option (List Char × List Char) :=
  let (sign, r) := match cs with
    | '-' :: r => (['-'], r)
    | r => ([], r)
  let ds := r.takeWhile Text.isDecimal
  if ds.isEmpty then none
  else
    let r := r.drop ds.length
    match r with
    | '.' :: more =>
      let fs := more.takeWhile Text.isDecimal
      if fs.isEmpty then some (sign ++ ds, r)
      else some (sign ++ ds ++ '.' :: fs, more.drop fs.length)
    | _ => some (sign ++ ds, r)

namespace GeoUri

/-- The URI text. -/
def text (g : GeoUri) : String :=
  "geo:" ++ coordinateText g.latitude ++ "," ++ coordinateText g.longitude ++
    match g.altitude with
    | some a => "," ++ coordinateText a
    | none => ""

/-- The numbers of a geo URI's body, after `geo:`. -/
def numbers? (cs : List Char) : Option (List Char × List Char × Option (List Char)) := do
  let cs := cs.dropWhile Text.isBlank
  let (lat, r) ← decimalPrefix? cs
  let r := r.dropWhile Text.isBlank
  let r ← match r with
    | ',' :: r => some r
    | _ => none
  let (lng, r) ← decimalPrefix? (r.dropWhile Text.isBlank)
  -- An optional altitude; if what follows is not one, the text must end or
  -- go on with parameters.
  let alt : Option (List Char × List Char) :=
    match r.dropWhile Text.isBlank with
    | ',' :: more => decimalPrefix? (more.dropWhile Text.isBlank)
    | _ => none
  let tailOk (t : List Char) : Bool :=
    match t with
    | ';' :: more => !more.contains '\n' || more.getLast? == some '\n' && (more.dropLast.all (· != '\n'))
    | _ => t.isEmpty || t == ['\n']
  match alt with
  | some (a, t) => if tailOk t then pure (lat, lng, some a) else
      if tailOk r then pure (lat, lng, none) else none
  | none => if tailOk r then pure (lat, lng, none) else none

/-- Reads a geo URI. -/
def parse (text : String) : Except Error GeoUri :=
  let t := Text.trimChars text.toList
  let isGeo := (Text.lowerChars (t.take 4)) == "geo:".toList
  let parsed := if isGeo then numbers? (t.drop 4) else none
  match parsed with
  | some (lat, lng, alt) =>
    let num (cs : List Char) : Float := (Number.parseFloat? (String.ofList cs)).getD 0
    .ok ⟨num lat, num lng, alt.map num⟩
  | none => .error (.notGeoUri text)

end GeoUri

end VCard
