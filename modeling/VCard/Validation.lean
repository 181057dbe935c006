import VCard.Codec.Table
import VCard.Time.Zone
import VCard.Number.Shortest
/-! Checking a card against the rules of a version.

Validation never fails; it lists problems, each with the name of the property
it concerns (none for the card as a whole), in a fixed order:

1. the properties the version requires (`N` in 2.1, `FN` and `N` in 3.0, `FN`
   in 4.0) that the card lacks;
2. for each property in order: a property the version does not know, what the
   version does not allow in its parameters (`Params.problems`), and what is
   wrong with its value;
3. in 4.0, labels that belong to no address, as 4.0 has no `LABEL` property.

An embedded card (`AGENT`) is checked with the same version one level deeper,
and its problems are reported under `AGENT`; past the depth limit only the depth
is reported. -/
namespace VCard

/-- The properties a version requires. -/
def requiredProperties : Version → List String
  | .v21 => ["N"]
  | .v30 => ["FN", "N"]
  | .v40 => ["FN"]

namespace Codec

/-- The problems of a value, apart from those of an embedded card. -/
def valueProblems (c : Codec) (value : Value) (params : Params) (v : Version) : List String :=
  let noValue (s : Option String) : List String :=
    if s.isNone || s == some "" then ["Property has no value."] else []
  match c.shape, value with
  | .leveled levels, .text s =>
    let level := match params.get? "LEVEL" with
      | some l => if levels.contains (Text.lower l) then []
        else ["LEVEL=" ++ l ++ " is not one of: " ++ ", ".intercalate (levels.mergeSort (· ≤ ·)) ++ "."]
      | none => []
    let index := match params.index? with
      | some i => if i < 1 then ["INDEX must be a positive integer."] else []
      | none => []
    noValue s ++ level ++ index
  | .text .., .text s | .uri _, .text s | .email, .text s => noValue s
  | _, .telephone t =>
    match t with
    | .empty => ["Property has no value."]
    | .uri _ => if v != .v40 then ["A tel URI is written as plain text in vCard " ++ v.text ++ "."] else []
    | .text _ => []
  | _, .related r => if r.isEmpty then ["Property has no value."] else []
  | _, .gender sex _ =>
    match sex with
    | some s =>
      if ["M", "F", "O", "N", "U"].contains (Text.upper s) then []
      else ["Gender sex " ++ Text.quote s ++ " is not one of M, F, O, N, U."]
    | none => []
  | _, .address a => if a.isEmpty && a.label.isNone then ["Address has no components."] else []
  | _, .textList values _ => if values.isEmpty then ["Property has no values."] else []
  | _, .geo lat lng =>
    let check (what : String) (bound : Float) : Option Float → List String
      | none => [what ++ " is missing."]
      | some x => if -bound ≤ x && x ≤ bound then []
        else [what ++ " " ++ Number.floatText x ++ " is out of range."]
    check "Latitude" 90 lat ++ check "Longitude" 180 lng
  | _, .clientPidMap pid uri =>
    (if pid.isNone then ["CLIENTPIDMAP has no PID."] else []) ++
      (if uri.isNone then ["CLIENTPIDMAP has no URI."] else [])
  | .binary textAllowed, .binary b =>
    if b.isEmpty then ["Property has no URL, data or text."]
    else if b.text?.isSome && !textAllowed then [c.name ++ " cannot hold a text value."]
    else []
  | _, .dateOrTime d =>
    match d with
    | .empty => ["Property has no date or text."]
    | .partialDate _ => if v != .v40 then ["Partial dates are not supported by vCard " ++ v.text ++ "."] else []
    | .text _ => if v == .v21 then ["Text dates are not supported by vCard 2.1."] else []
    | .date _ => []
  | _, .timezone offset text =>
    if offset.isNone && text.isNone then ["TZ has neither an offset nor a text value."]
    else if v == .v21 && offset.isNone && (zoneOffset? (text.getD "")).isNone then
      ["TZ " ++ optionLiteralText text ++ " cannot be written as a UTC offset for vCard 2.1."]
    else []
  | _, .place p => if p.isEmpty then ["Property has no value."] else []
  | _, .agent .empty => ["AGENT has neither a URL nor an embedded vCard."]
  | _, _ => []
where
  optionLiteralText : Option String → String
    | some s => Text.quote s
    | none => "None"

/-- The problems of a property of this codec that do not depend on its value. -/
def propertyProblems (c : Codec) (params : Params) (v : Version) : List String :=
  let supported := c.supportedVersions
  (if supported.contains v then []
   else ["Property is not supported by vCard " ++ v.text ++ " (supported: " ++
     ", ".intercalate ((Version.sorted supported).map (·.text)) ++ ")."]) ++
  params.problems v

end Codec

/-- Where validation stands: the version, the codecs, the depth of the card
being checked and the depth limit. -/
structure Validation where
  version : Version
  index : CodecIndex := defaultIndex
  depth : Int := 0
  maxDepth : Int := 10

namespace Validation

/-- One level deeper. -/
def deeper (s : Validation) : Validation := { s with depth := s.depth + 1 }

mutual
/-- The problems of a card, with the property each concerns. -/
def card (s : Validation) : Card → List (Option String × String)
  | ⟨_, props, orphans⟩ =>
    let required := (requiredProperties s.version).filterMap fun n =>
      if props.any (·.name == n) then none
      else some (some n, n ++ " is required in vCard " ++ s.version.text ++ ".")
    let labels := if s.version == .v40 && !orphans.isEmpty then
        [(some "LABEL", toString orphans.length ++ " label(s) match no address; vCard 4.0 has no LABEL property.")]
      else []
    required ++ properties s props ++ labels

def properties (s : Validation) : List Property → List (Option String × String)
  | [] => []
  | p :: rest => ((property s p).map (some p.name, ·)) ++ properties s rest

/-- The problems of a property. -/
def property (s : Validation) : Property → List String
  | ⟨g, name, params, value⟩ =>
    let c := s.index.codecForProperty ⟨g, name, params, value⟩
    c.propertyProblems params s.version ++ valueOf s c params value

def valueOf (s : Validation) (c : Codec) (params : Params) : Value → List String
  | .agent a => if c.shape == .agent then agent s a else []
  | v => c.valueProblems v params s.version

/-- The problems of an agent: an embedded card is checked one level deeper. -/
def agent (s : Validation) : Agent → List String
  | .empty => ["AGENT has neither a URL nor an embedded vCard."]
  | .url _ => []
  | .card child =>
    if s.depth ≥ s.maxDepth then
      ["Embedded vCards are nested deeper than " ++ toString s.maxDepth ++ " levels."]
    else (card s.deeper child).map fun (n, m) => "AGENT: [" ++ n.getD "*" ++ "] " ++ m
end

/-- The problems of a value held by a property of the codec. -/
def valueWith (s : Validation) (c : Codec) (params : Params) (value : Value) : List String :=
  c.propertyProblems params s.version ++ valueOf s c params value

end Validation

/-- The problems of a card for a version (its own by default). -/
def Card.problems (c : Card) (version : Option Version := none) (maxDepth : Int := 10) :
    List (Option String × String) :=
  Validation.card { version := version.getD c.version, maxDepth } c

end VCard
