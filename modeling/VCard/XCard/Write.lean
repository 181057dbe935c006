import VCard.Codec.Xml
import VCard.Codec.Table
import VCard.Codec.Prepare
import VCard.XCard.Read
/-! Writing xCard documents (RFC 6351).

Cards are written as `<vcard>` elements of one `<vcards>` document, always as
version 4.0. A property is an element named after it holding its parameters
(`<parameters>`, first, when it has any besides `VALUE`, which the value element
already says) and its value children. A parameter's values are `<integer>` for
`PREF` and `INDEX`, `<uri>` for `GEO`, `<language-tag>` for `LANGUAGE`, and
`<text>` otherwise. Properties of a group go into one `<group name="…">` element,
made where the group's first property stands.

An `XML` property is written as the element it holds; one that is not
well-formed is dropped. Embedded cards cannot be written, nor can labels that
belong to no address; both are reported. -/
namespace VCard

namespace XCard

/-- The value element of a parameter. -/
def parameterValueTag (name : String) : String :=
  match name with
  | "PREF" | "INDEX" => "integer"
  | "GEO" => "uri"
  | "LANGUAGE" => "language-tag"
  | _ => "text"

/-- The `<parameters>` block of a parameter set. -/
def parametersElement (p : Params) : Xml.Element :=
  { name := xname "parameters"
    children := p.multimap.map fun (n, vs) =>
      { name := xname (Text.lower n), children := vs.map (.leaf (xname (parameterValueTag n))) } }

/-- Writing a document, with warnings; a value that cannot be written fails. -/
abbrev EmitM := ExceptT Error (StateM (List Warning))

def note (message : String) (property : Option String) : EmitM Unit :=
  modify fun ws => ws ++ [⟨message, property, none⟩]

/-- The element of a property of a card, at a position; none when dropped. -/
def propertyElement (index : CodecIndex) (card : Card) (self : Nat) (prop : Property) :
    EmitM (Option Xml.Element) := do
  if let (true, .xml doc) := (prop.name == "XML", prop.value) then
    match Xml.parse (doc.getD "") with
    | .ok e => return some e
    | .error msg =>
      note ("XML property is not well-formed and was dropped: " ++ msg) (some prop.name)
      return none
  let codec := index.codecForProperty prop
  if !codec.supportedVersions.contains .v40 then
    note "Property is not part of vCard 4.0; writing it anyway." (some prop.name)
  let (result, messages) := (codec.writeXml prop.value .v40).run'
  for m in messages do note m (some prop.name)
  match result with
  | .error e => throw e
  | .ok (.skip why) =>
    note ("Property has requested that it be skipped: " ++ why) (some prop.name)
    return none
  | .ok (.embedded _) =>
    note "Embedded vCards are not supported in xCard; property dropped." (some prop.name)
    return none
  | .ok (.written kids) =>
    let params := (codec.prepareParams prop (some self) .v40 (some card)).erase "VALUE"
    let block := if params.isEmpty then [] else [parametersElement params]
    return some { name := xname (Text.lower codec.xmlName),
                  children := block ++ kids.map fun (n, t) => .leaf (xname n) t }

/-- An element of a card: a property, or a group with its properties. -/
inductive Item where
  | single (e : Xml.Element)
  | group (name : String) (elements : List Xml.Element)

/-- Adds an element to the items, into its group when it has one. -/
def Item.place (items : List Item) (group : Option String) (e : Xml.Element) : List Item :=
  match group with
  | some g =>
    if g.isEmpty then items ++ [.single e]
    else if items.any (fun | .group n _ => n == g | _ => false) then
      items.map fun
        | .group n es => if n == g then .group n (es ++ [e]) else .group n es
        | i => i
    else items ++ [.group g [e]]
  | none => items ++ [.single e]

def Item.element : Item → Xml.Element
  | .single e => e
  | .group n es => { name := xname "group", attrs := [(⟨none, "name"⟩, n)], children := es }

/-- The `<vcard>` element of a card. -/
def cardElement (index : CodecIndex) (card : Card) : EmitM Xml.Element := do
  let mut items : List Item := []
  for (i, p) in (List.range card.properties.length).zip card.properties do
    if let some e ← propertyElement index card i p then
      items := Item.place items p.group e
  if !card.orphanedLabels.isEmpty then
    note (toString card.orphanedLabels.length ++ " label(s) match no address and were not written.") (some "LABEL")
  return { name := xname "vcard", children := items.map Item.element }

/-- Writes cards as an xCard document, laid out when `indent` is set; gives the
text and the warnings. -/
def write (index : CodecIndex) (cards : List Card) (indent : Bool) : Except Error (String × List Warning) :=
  let run : EmitM Xml.Element := do
    return { name := xname "vcards", children := ← cards.mapM (cardElement index) }
  match (ExceptT.run run).run [] with
  | (.ok root, ws) => .ok ((if indent then root.indent else root).renderDocument, ws)
  | (.error e, _) => .error e

end XCard

end VCard
