import VCard.Codec.Basic
import VCard.Time.Zone
import VCard.DataUri
import VCard.MediaType
import VCard.Number.Fixed
import VCard.Xml.Parse
/-! Property values in vCard text.

`Codec.writeText` gives the escaped text of a value for a version and
`Codec.readText` reads escaped text back, given the data type the property was
declared with (its `VALUE`, or the version's default).

Most shapes read what they write: a text is escaped and unescaped, a structured
value is joined and split at unescaped `;` and `,`. Where a version cannot say
something, writing degrades: a `tel:` URI is written as its number before 4.0, a
named time zone as its offset in 2.1, a partial date is skipped before 4.0.
Reading is lenient: binary content without `VALUE` or `ENCODING` is taken for a
URL when it looks like one and for base64 otherwise, each time with a warning,
and a date that is no date is kept as text in 4.0. -/
namespace VCard

namespace Codec

/-- A text for `{x!r}`-style messages: `None` when absent. -/
def optionLiteral : Option String → String
  | some s => Text.quote s
  | none => "None"

/-- A coordinate for 2.1 and 3.0: fixed to six places, trailing zeros dropped. -/
def coordinate : Option Float → String
  | some x => Number.trimmedFixed x 6
  | none => ""

/-- A missing or zero coordinate is zero. -/
def orZero : Option Float → Float
  | some x => if x == 0 then 0 else x
  | none => 0

/-- Writes the text of a value for a version. -/
def writeText (c : Codec) (value : Value) (v : Version) : WriteM String :=
  match c.shape, value with
  | .uri _, .text s =>
    if c.defaultDataType v == some .text then pure (escapeFor v (s.getD "")) else pure (s.getD "")
  | _, .text s => pure (escapeFor v (s.getD ""))
  | _, .telephone t =>
    match t with
    | .uri u =>
      if v == .v40 then pure u
      else
        let number := if startsWithNoCase u "tel:" then String.ofList (u.toList.drop 4) else u
        pure (escapeFor v (String.ofList (number.toList.takeWhile (· != ';'))))
    | .text s => pure (escapeFor v s)
    | .empty => pure ""
  | _, .related r =>
    match r with
    | .text s => pure (escapeFor v s)
    | .uri u => pure u
    | .empty => pure ""
  | _, .gender sex identity =>
    match identity with
    | none => pure (Text.escape (sex.getD ""))
    | some i => pure (Text.joinStructured [(sex.map .single).getD .absent, .single i])
  | _, .xml doc =>
    match doc with
    | some d => if d.isEmpty then WriteM.skip "XML property has no document" else pure (Text.escape d)
    | none => WriteM.skip "XML property has no document"
  | _, .raw s _ => pure s
  | _, .address a => pure (Text.joinStructured (a.components.map .many))
  | _, .label s => pure (escapeFor v (s.getD ""))
  | _, .name n =>
    let opt (x : Option String) : Text.Component := (x.map .single).getD .absent
    pure (Text.joinStructured [opt n.family, opt n.given, .many n.additional, .many n.prefixes,
      .many n.suffixes])
  | .textList d _, .textList values _ => pure (Text.joinList values d)
  | _, .textList values delimiter => pure (Text.joinList values delimiter)
  | _, .geo lat lng =>
    if lat.isNone && lng.isNone then WriteM.skip "GEO has neither a latitude nor a longitude"
    else if v == .v40 then pure (GeoUri.text ⟨orZero lat, orZero lng, none⟩)
    else pure (coordinate lat ++ ";" ++ coordinate lng)
  | _, .clientPidMap pid uri =>
    if pid.isNone && uri.isNone then WriteM.skip "CLIENTPIDMAP has neither a PID nor a URI"
    else pure (Text.joinStructured [.single ((pid.map toString).getD ""), (uri.map .single).getD .absent])
  | _, .binary b =>
    match b.source with
    | .url u => pure u
    | .data d =>
      if v == .v40 then
        let ct := match b.contentType with
          | some t => if t.isEmpty then none else some t
          | none => none
        pure (DataUri.text ⟨some (ct.getD DataUri.defaultMediaType), d⟩)
      else pure (Encoding.encodeBase64 d)
    | .text s => pure (escapeFor v s)
    | .empty => WriteM.skip (c.name ++ " has no URL, data or text")
  | _, .dateOrTime d =>
    match d with
    | .date s => WriteM.ofExcept (s.format (v == .v30) false)
    | .partialDate p =>
      if v != .v40 then WriteM.skip ("Partial dates are not supported by vCard " ++ v.text ++ ".")
      else pure (p.toIso false)
    | .text s => do
      if v == .v21 then WriteM.warn "Text dates are not supported by vCard 2.1."
      pure (escapeFor v s)
    | .empty => WriteM.skip (c.name ++ " has no date or text")
  | _, .timestamp s =>
    match s with
    | none => WriteM.skip "REV has no timestamp"
    | some s => WriteM.ofExcept (s.format (v == .v30) true)
  | _, .timezone offset text =>
    if offset.isNone && text.isNone then WriteM.skip "TZ has neither an offset nor a text value"
    else match v with
      | .v21 =>
        match offset.orElse fun _ => zoneOffset? (text.getD "") with
        | some o => pure (o.format false)
        | none => WriteM.skip ("TZ " ++ optionLiteral text ++ " has no UTC offset, which vCard 2.1 requires")
      | .v30 =>
        match offset with
        | some o => pure (o.format true)
        | none => pure (escapeFor v (text.getD ""))
      | .v40 =>
        match text with
        | some t => pure (escapeFor v t)
        | none => pure ((offset.map (·.format false)).getD "")
  | _, .place p =>
    match p with
    | .text s => pure (escapeFor v s)
    | .uri u => pure u
    | .geo g => pure g.text
    | .empty => WriteM.skip (c.name ++ " has no text, URI or coordinates")
  | _, .agent a =>
    match a with
    | .url u => pure u
    | .card card => throw (.embedded card)
    | .empty => WriteM.skip "AGENT has neither a URL nor an embedded vCard"

/-! ### Reading -/

/-- A coordinate read from text: blank is none, anything else must be a number. -/
def readCoordinate (text what : String) : ReadM (Option Float) :=
  let t := Text.trim text
  if t.isEmpty then pure none
  else match Number.parseFloat? t with
    | some x => pure (some x)
    | none => ReadM.cannotParse (what ++ " is not a number: " ++ Text.quote t)

/-- A client PID map of its two components. -/
def readClientPidMap (pidPart uriPart : List String) : ReadM Value := do
  let pidText := Text.trim (",".intercalate pidPart)
  let pid ← if pidText.isEmpty then pure none
    else match Number.parseInt? pidText with
      | some n => pure (some n)
      | none => ReadM.cannotParse ("CLIENTPIDMAP PID is not an integer: " ++ Text.quote pidText)
  let uri := ",".intercalate uriPart
  pure (.clientPidMap pid (if uri.isEmpty then none else some uri))

/-- The first `LABEL` parameter, taken out of the parameters. -/
def takeLabel : ReadM (Option String) := do
  return (← ReadM.takeParam "LABEL").head?

/-- The media type of binary content: a `MEDIATYPE` parameter, or before 4.0 the
first `TYPE` word; both are taken out of the parameters. -/
def binaryContentType : ReadM (Option String) := do
  match ← ReadM.takeParam "MEDIATYPE" with
  | m :: _ => pure (some m)
  | [] =>
    if (← ReadM.version) == .v40 then pure none
    else return (← ReadM.takeParam "TYPE").head?.map MediaType.mediaTypeFor

/-- Base64 content, blanks ignored. -/
def readBase64 (text : String) : ReadM (List UInt8) :=
  match Encoding.decodeBase64 (String.ofList (text.toList.filter (!Text.isBlank ·))) with
  | .ok bytes => pure bytes
  | .error .nonAscii => ReadM.cannotParse Encoding.Base64Error.nonAscii.message
  | .error e => ReadM.cannotParse ("value is not valid base64: " ++ e.message)

/-- Reads binary content: a data URI, a URL or text as declared, base64 as
declared by `ENCODING`, or else a guess. -/
def readBinary (textAllowed : Bool) (value : String) (dt : Option DataType) : ReadM Value := do
  let value := Text.trim (Text.unescape value)
  let contentType ← binaryContentType
  let encoding ← ReadM.takeParam "ENCODING"
  if startsWithNoCase value "data:" then
    let uri ← ReadM.ofExcept (DataUri.parse value)
    return .binary ⟨.data uri.data, uri.mediaType.orElse fun _ => contentType⟩
  if dt == some .uri || dt == some .url || dt == some .contentId then
    return .binary ⟨.url value, contentType⟩
  if dt == some .text && textAllowed then
    return .binary ⟨.text value, contentType⟩
  match encoding with
  | enc :: _ =>
    let e := Text.lower enc
    if e != "b" && e != "base64" then
      ReadM.warn ("Unrecognised ENCODING=" ++ enc ++ "; decoding the value as base64.")
    return .binary ⟨.data (← readBase64 value), contentType⟩
  | [] =>
    if startsWithNoCase value "http" then
      ReadM.warn "No VALUE or ENCODING parameter; the value looks like a URL."
      return .binary ⟨.url value, contentType⟩
    ReadM.warn "No VALUE or ENCODING parameter; decoding the value as base64."
    return .binary ⟨.data (← readBase64 value), contentType⟩

/-- Reads a date, a partial date (4.0 only) or, failing both in 4.0, text. -/
def readDateOrTime (value : String) (dt : Option DataType) : ReadM Value := do
  let value := Text.unescape value
  if dt == some .text then return .dateOrTime (.text value)
  match Stamp.parse value with
  | .ok s => return .dateOrTime (.date s)
  | .error _ =>
    if (← ReadM.version) != .v40 then
      ReadM.cannotParse ("date is not in a recognised format: " ++ Text.quote value)
    match PartialDate.parse value with
    | .ok p => return .dateOrTime (.partialDate p)
    | .error _ =>
      ReadM.warn ("Could not parse " ++ Text.quote value ++ " as a date; keeping it as text.")
      return .dateOrTime (.text value)

/-- A date read as a timestamp is midnight UTC of that day. -/
def Stamp.atMidnight : Stamp → Stamp
  | .date d => .dateTime ⟨d, 0, 0, 0, 0, some 0⟩
  | s => s

/-- Reads a geographic position: a geo URI, or latitude and longitude between
a semicolon. -/
def readGeo (value : String) : ReadM Value := do
  let value := Text.trim (Text.unescape value)
  if startsWithNoCase value "geo:" then
    let uri ← ReadM.ofExcept (GeoUri.parse value)
    return .geo (some uri.latitude) (some uri.longitude)
  let cs := value.toList
  let latText := String.ofList (cs.takeWhile (· != ';'))
  let rest := cs.dropWhile (· != ';')
  if rest.isEmpty then ReadM.warn "GEO value has no longitude component."
  let lat ← readCoordinate latText "latitude"
  let lng ← readCoordinate (String.ofList (rest.drop 1)) "longitude"
  return .geo lat lng

/-- Reads the escaped text of a value declared with a data type. -/
def readText (c : Codec) (value : String) (dt : Option DataType) : ReadM Value := do
  let v ← ReadM.version
  match c.shape with
  | .text .. | .uri _ | .email | .leveled _ => return .text (some (Text.unescape value))
  | .telephone =>
    let value := Text.unescape value
    if dt == some .uri || (v == .v40 && startsWithNoCase value "tel:") then return .telephone (.uri value)
    return .telephone (.text value)
  | .related =>
    let value := Text.unescape value
    return .related (if dt == some .text then .text value else .uri value)
  | .gender =>
    let components := Text.splitStructured value
    let sex := match components with
      | (s :: _) :: _ => if s.isEmpty then none else some (Text.upper s)
      | _ => none
    let identity := match components with
      | _ :: i :: _ => if i.isEmpty then none else some (",".intercalate i)
      | _ => none
    return .gender sex identity
  | .xml =>
    let document := Text.unescape value
    match Xml.parse document with
    | .ok _ => return .xml (some document)
    | .error msg => ReadM.cannotParse ("value is not well-formed XML: " ++ msg)
  | .raw => return .raw value dt
  | .address => return .address (Address.ofComponents (Text.splitStructured value) (← takeLabel))
  | .label => return .label (some (Text.unescape value))
  | .structuredName =>
    let cs := Text.splitStructured value
    let part (i : Nat) : List String := cs.getD i []
    let joined (i : Nat) : Option String :=
      let s := ",".intercalate (part i)
      if s.isEmpty then none else some s
    return .name ⟨joined 0, joined 1, part 2, part 3, part 4⟩
  | .textList d _ => return .textList (Text.splitList value d) d
  | .geo => readGeo value
  | .clientPidMap =>
    match Text.splitStructured value with
    | p :: u :: _ => readClientPidMap p u
    | _ => ReadM.cannotParse "CLIENTPIDMAP needs a PID and a URI separated by a semicolon"
  | .binary textAllowed => readBinary textAllowed value dt
  | .dateOrTime => readDateOrTime value dt
  | .timestamp =>
    let s ← ReadM.ofExcept (Stamp.parse (Text.unescape value))
    return .timestamp (some (Stamp.atMidnight s))
  | .timezone =>
    let value := Text.trim (Text.unescape value)
    if dt == some .text then return .timezone none (some value)
    match UtcOffset.parse value with
    | .ok o => return .timezone (some o) none
    | .error _ =>
      ReadM.warn ("TZ value " ++ Text.quote value ++ " is not a UTC offset; keeping it as text.")
      return .timezone none (some value)
  | .place =>
    let value := Text.unescape value
    if dt == some .uri then
      if startsWithNoCase value "geo:" then
        if let .ok g := GeoUri.parse value then return .place (.geo g)
      return .place (.uri value)
    return .place (.text value)
  | .agent =>
    if dt == some .uri || dt == some .url then return .agent (.url (Text.unescape value))
    let text := Text.trim (Text.unescape value)
    throw (.embedded (if text.isEmpty then none else some text))

end Codec

end VCard
