import VCard.Codec.Xml
import VCard.Codec.Table
import VCard.Warning
/-! Reading xCard documents (RFC 6351).

Every `<vcard>` element of the document is a card of version 4.0 (the document
element itself when it is one, else every one below it in document order). Its
children are properties, or `<group name="…">` elements whose children are
properties of that group. A property element carries its parameters in a
`<parameters>` child: one child per parameter, named after it, whose own
children hold the values (or whose text is the value when it has none).

An element outside the xCard namespace is kept as an `XML` property holding its
written form, and so is a property whose value cannot be read (with a warning).
A document that is not well-formed XML is an error. -/
namespace VCard

namespace XCard

/-- The name of an element of the xCard namespace. -/
def xname (localName : String) : Xml.Name := ⟨some Xml.xcardNs, localName⟩

/-- The parameters of a property element. -/
def readParameters (e : Xml.Element) : Params :=
  match e.children.find? (·.name == xname "parameters") with
  | none => {}
  | some block =>
    block.children.foldl (fun p param =>
      let name := Text.upper param.name.localName
      let values := param.children.map (·.text)
      (if values.isEmpty then [param.text] else values).foldl (fun p v => p.put name v) p) {}

/-- An element kept as an `XML` property. -/
def asXmlProperty (e : Xml.Element) (group : Option String) : Property :=
  Property.make "XML" (.xml (some e.render)) {} group

/-- Reads one property element into a card; warnings are added to the list. -/
def readProperty (index : CodecIndex) (types : DataType.Registry) (group : Option String)
    (st : Card × List Warning) (e : Xml.Element) : Card × List Warning :=
  let (card, ws) := st
  match index.codecForXml? e.name.ns e.name.localName with
  | none => (card.add (asXmlProperty e group), ws)
  | some c =>
    let name := c.name
    let r := (c.readXml e).run' .v40 (readParameters e) types
    let noted := ws ++ r.warnings.map fun m => ⟨m, some name, none⟩
    match r.reading with
    | .value v => (card.add (Property.make name v r.params group), noted)
    | .skip why => (card, ws ++ [⟨"Property has requested that it be skipped: " ++ why, some name, none⟩])
    | .cannotParse why =>
      (card.add (asXmlProperty e group),
        ws ++ [⟨"Property value could not be parsed and is kept as an XML property: " ++ why, some name, none⟩])
    | .embedded _ =>
      (card, noted ++ [⟨"Embedded vCards are not supported in xCard; property dropped.", some name, none⟩])

/-- Reads a `<vcard>` element. -/
def readCard (index : CodecIndex) (types : DataType.Registry) (ws : List Warning) (e : Xml.Element) :
    Card × List Warning :=
  e.children.foldl (fun st child =>
    if child.name == xname "group" then
      let group := (child.attr? ⟨none, "name"⟩).bind fun g => if g.isEmpty then none else some g
      child.children.foldl (readProperty index types group) st
    else readProperty index types none st child) ({ version := .v40 }, ws)

/-- Reads every card of an xCard document, with the warnings. -/
def read (index : CodecIndex) (types : DataType.Registry) (text : String) :
    Except Error (List Card × List Warning) :=
  match Xml.parse text with
  | .error msg => .error (.framing none ("xCard document is not well-formed: " ++ msg))
  | .ok root =>
    let cards := if root.name == xname "vcard" then [root] else root.descendants.filter (·.name == xname "vcard")
    .ok (cards.foldl (fun (acc : List Card × List Warning) e =>
      let (c, ws) := readCard index types acc.2 e
      (acc.1 ++ [c], ws)) ([], []))

end XCard

end VCard
