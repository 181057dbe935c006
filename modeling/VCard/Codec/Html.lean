import VCard.Codec.Text
import VCard.HCard.Element
/-! Property values in hCard markup.

Most properties read the value of their element (see `HCard.value`) as if it
were the property's text. Some look at the markup itself: a link's target
stands for a URL, an e-mail address (`mailto:` dropped, with its query) or a
telephone number (`tel:` kept); an image's source, an object's data or a link's
target for binary content, with the element's `type` or a guess from the file
name for its media type; a `time` element's `datetime` for a date; the parts of
a structured value are elements of their own classes below the property's
element. An element that is itself an hCard makes an agent property hold that
card. Properties of addresses, labels, e-mail addresses and telephone numbers
take their `TYPE`s from the elements of class `type` below them. -/
namespace VCard

namespace Codec

open Xml (Element)

/-- The classes of an address's parts, in the order of the components. -/
def addressClasses : List String :=
  ["post-office-box", "extended-address", "street-address", "locality", "region", "postal-code",
   "country-name"]

/-- Adds the `type` words below an element as `TYPE`s, each once. -/
def addTypes (e : Element) : ReadM Unit := do
  for t in HCard.types e do
    let p ← ReadM.params
    if !p.hasType t then ReadM.setParams (p.addType t)

/-- A link attribute resolved against the base URL; a link that cannot be
resolved makes the value one that cannot be read. -/
def linkOf (base : Option String) (e : Element) (name : String) : ReadM String :=
  match HCard.absUrl base e name with
  | .ok url => pure url
  | .error why => ReadM.cannotParse why

/-- Binary content of an element: its source, link or value. -/
def readHtmlBinary (c : Codec) (base : Option String) (e : Element) : ReadM Value := do
  let src ← match HCard.tag e with
    | "img" => linkOf base e "src"
    | "object" => linkOf base e "data"
    | "a" => linkOf base e "href"
    | _ => pure (HCard.value e)
  if src.isEmpty then ReadM.cannotParse ("no image, object or link found for " ++ c.name)
  let declared := HCard.attr e "type"
  let contentType := if declared.isEmpty then none else some declared
  if startsWithNoCase src "data:" then
    let uri ← ReadM.ofExcept (DataUri.parse src)
    return .binary ⟨.data uri.data, uri.mediaType.orElse fun _ => contentType⟩
  return .binary ⟨.url src, contentType.orElse fun _ => MediaType.ofPath? src⟩

/-- Reads the value of a property from its element. -/
def readHtml (c : Codec) (base : Option String) (e : Element) : ReadM Value := do
  let href := HCard.attr e "href"
  let isLink := HCard.tag e == "a"
  match c.shape with
  | .uri _ =>
    if isLink && !href.isEmpty then return .text (some (← linkOf base e "href"))
    return .text (some (HCard.value e))
  | .email =>
    addTypes e
    if isLink && startsWithNoCase href "mailto:" then
      return .text (some (String.ofList ((href.toList.drop 7).takeWhile (· != '?'))))
    return .text (some (HCard.value e))
  | .telephone =>
    addTypes e
    if isLink && startsWithNoCase href "tel:" then return .telephone (.uri href)
    return .telephone (.text (HCard.value e))
  | .binary _ => readHtmlBinary c base e
  | .dateOrTime =>
    let stamp := if HCard.tag e == "time" then HCard.attr e "datetime" else ""
    readDateOrTime (if stamp.isEmpty then HCard.value e else stamp) none
  | .address =>
    addTypes e
    return .address (Address.ofComponents (addressClasses.map (HCard.allValues e)))
  | .label =>
    addTypes e
    return .label (some (HCard.value e))
  | .structuredName =>
    return .name ⟨HCard.firstValue? e "family-name", HCard.firstValue? e "given-name",
      HCard.allValues e "additional-name", HCard.allValues e "honorific-prefix",
      HCard.allValues e "honorific-suffix"⟩
  | .textList d _ =>
    let parts := if c.name == "ORG" then
        HCard.allValues e "organization-name" ++ HCard.allValues e "organization-unit"
      else []
    if !parts.isEmpty then return .textList parts d
    return .textList [HCard.value e] d
  | .geo =>
    match HCard.firstValue? e "latitude", HCard.firstValue? e "longitude" with
    | none, none => readGeo (HCard.value e)
    | lat, lng =>
      let lat ← readCoordinate (lat.getD "") "latitude"
      let lng ← readCoordinate (lng.getD "") "longitude"
      return .geo lat lng
  | .agent =>
    if HCard.hasClass e "vcard" then throw (.embedded none)
    let url ← if isLink then linkOf base e "href" else pure ""
    return .agent (.url (if url.isEmpty then HCard.value e else url))
  | _ => readText c (Text.escape (HCard.value e)) (c.defaultDataType (← ReadM.version))

end Codec

end VCard
