import VCard.Codec.Text
import VCard.Xml.Node
/-! Property values in xCard (RFC 6351).

In xCard a property is an element named after it, in the xCard namespace, whose
children hold the value: one child named after the data type (`<text>`,
`<uri>`, `<date-time>`, …) for a plain value, or one child per component for a
structured one (`<surname>`, `<given>`, … for a name; `<pobox>`, `<ext>`, … for an
address). Children outside the namespace and the `<parameters>` block are not
value children.

`Codec.writeXml` gives the value children as pairs of local name and text;
`Codec.readXml` reads them back. A shape without its own element layout writes
one child named after its data type holding the unescaped vCard text, and
reads the first value child as vCard text of that child's data type. -/
namespace VCard

namespace Xml.Element

/-- The value children: in the xCard namespace and not the parameters. -/
def valueChildren (e : Element) : List Element :=
  e.children.filter fun c => c.name.ns == some xcardNs && c.name.localName != "parameters"

/-- The text of the first value child with one of the names. -/
def firstNamed? (e : Element) (names : List String) : Option String :=
  ((valueChildren e).find? (names.contains ·.name.localName)).map (·.text)

/-- The texts of every value child with the name. -/
def allNamed (e : Element) (name : String) : List String :=
  ((valueChildren e).filter (·.name.localName == name)).map (·.text)

/-- The first value child, as the data type its name gives (if known) and its text. -/
def firstValue? (e : Element) (types : DataType.Registry) : Option (Option DataType × String) :=
  (valueChildren e).head?.map fun c => (types.find? c.name.localName, c.text)

end Xml.Element

namespace Codec

/-- The local names of address components, in component order. -/
def addressElementNames : List String := ["pobox", "ext", "street", "locality", "region", "code", "country"]

/-- One child per item, or one empty child for no items. -/
def eachOrEmpty (name : String) : List String → List (String × String)
  | [] => [(name, "")]
  | items => items.map (name, ·)

/-- The value children of a value in xCard, as local names and texts. -/
def writeXml (c : Codec) (value : Value) (v : Version) : WriteM (List (String × String)) :=
  let typeName (dt : Option DataType) : String := (dt.map (·.name)).getD "unknown"
  let plain : WriteM (List (String × String)) := do
    let text ← c.writeText value v
    pure [(typeName (c.dataType value v), Text.unescape text)]
  match value with
  | .text s => pure [(((c.dataType value v).getD .text).name, s.getD "")]
  | .telephone t =>
    match t with
    | .uri u => pure [("uri", u)]
    | .text s => pure [("text", s)]
    | .empty => pure [("text", "")]
  | .gender sex identity =>
    pure ([("sex", sex.getD "")] ++ (identity.map fun i => ("identity", i)).toList)
  | .raw s dt => pure [(typeName dt, s)]
  | .address a => pure ((addressElementNames.zip a.components).flatMap fun (n, items) => eachOrEmpty n items)
  | .name n =>
    pure ([("surname", n.family.getD ""), ("given", n.given.getD "")] ++ eachOrEmpty "additional" n.additional ++
      eachOrEmpty "prefix" n.prefixes ++ eachOrEmpty "suffix" n.suffixes)
  | .textList values _ => pure (eachOrEmpty "text" values)
  | .geo .. => do return [("uri", ← c.writeText value v)]
  | .clientPidMap pid uri =>
    if pid.isNone && uri.isNone then WriteM.skip "CLIENTPIDMAP has neither a PID nor a URI"
    else pure [("sourceid", (pid.map toString).getD ""), ("uri", uri.getD "")]
  | .binary b => do
    let text ← c.writeText value v
    pure [(if b.text?.isSome then "text" else "uri", Text.unescape text)]
  | .dateOrTime d => do
    let text ← match d with
      | .date s => WriteM.ofExcept (s.format false false)
      | .partialDate p => pure (p.toIso false)
      | .text s => pure s
      | .empty => WriteM.skip (c.name ++ " has no date or text")
    pure [(((c.dataType value v).getD .dateAndOrTime).name, text)]
  | .agent _ => WriteM.skip "AGENT cannot be written to xCard"
  | _ => plain

/-- Reads the first value child as vCard text of its data type, or of the
version's default when its name is no known type. -/
def readFirstValue (c : Codec) (e : Xml.Element) : ReadM Value := do
  match e.firstValue? (← get).types with
  | none => ReadM.cannotParse "property has no value element"
  | some (dt, text) =>
    let dt ← match dt with
      | some d => pure (some d)
      | none => pure (c.defaultDataType (← ReadM.version))
    c.readText (Text.escape text) dt

/-- Reads a property element of xCard. -/
def readXml (c : Codec) (e : Xml.Element) : ReadM Value := do
  let nonEmpty (items : List String) : List String := items.filter (!·.isEmpty)
  let orNone (s : Option String) : Option String := s.bind fun t => if t.isEmpty then none else some t
  match c.shape with
  | .gender =>
    let sex := orNone (e.firstNamed? ["sex"])
    return .gender (sex.map Text.upper) (e.firstNamed? ["identity"])
  | .raw =>
    match e.firstValue? (← get).types with
    | none => return .raw "" none
    | some (dt, text) => return .raw text dt
  | .address =>
    let cs := addressElementNames.map fun n => nonEmpty (e.allNamed n)
    return .address (Address.ofComponents cs (← takeLabel))
  | .structuredName =>
    return .name ⟨orNone (e.firstNamed? ["surname"]), orNone (e.firstNamed? ["given"]),
      nonEmpty (e.allNamed "additional"), nonEmpty (e.allNamed "prefix"), nonEmpty (e.allNamed "suffix")⟩
  | .textList d _ => return .textList (e.allNamed "text") d
  | .clientPidMap =>
    match e.firstNamed? ["sourceid"], e.firstNamed? ["uri"] with
    | some pid, some uri => readClientPidMap [pid] [uri]
    | _, _ => ReadM.cannotParse "CLIENTPIDMAP needs <sourceid> and <uri> elements"
  | .agent => ReadM.cannotParse "AGENT is not part of xCard"
  | _ => c.readFirstValue e

end Codec

end VCard
