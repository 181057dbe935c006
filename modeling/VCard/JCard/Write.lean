import VCard.Codec.Json
import VCard.Codec.Table
import VCard.Codec.Prepare
import VCard.Json.Write
import VCard.Warning
/-! Writing jCard documents (RFC 7095).

Each card is written as `["vcard", [["version", {}, "text", "4.0"], property, …]]`,
always as version 4.0. A property is `[name, parameters, type, value…]`: its name
in lower case, its prepared parameters without `VALUE` as an object (one value as
itself, several as an array; the group as the member `group`), the name of its
data type (`unknown` when it has none), and its values (`Codec.writeJson`).

One card is written as its jCard, any other number as an array of them; the
text is compact, or indented by two spaces per level. Embedded cards cannot be
written, nor can labels that belong to no address; both are reported. -/
namespace VCard

namespace JCard

/-- Writing, with warnings; a value that cannot be written fails. -/
abbrev EmitM := ExceptT Error (StateM (List Warning))

def note (message : String) (property : Option String) : EmitM Unit :=
  modify fun ws => ws ++ [⟨message, property, none⟩]

/-- A parameter's values in the parameter object: one value as itself, several as
an array. -/
def paramValue (vs : List String) : Json.Value :=
  match vs with
  | [one] => .str one
  | _ => .arr (vs.map .str)

/-- The parameter object of a property: its parameters by lower-case name, and a
group that is not empty as the member `group`. -/
def paramObject (params : Params) (group : Option String) : List (String × Json.Value) :=
  let members := params.multimap.foldl (fun acc (n, vs) => assocSet acc (Text.lower n) (paramValue vs)) []
  match group with
  | some g => if g.isEmpty then members else assocSet members "group" (.str g)
  | none => members

/-- The property array of a property of a card; none when dropped. -/
def propertyArray (index : CodecIndex) (card : Card) (self : Nat) (prop : Property) :
    EmitM (Option Json.Value) := do
  let name := prop.name
  let codec := index.codecForProperty prop
  if !codec.supportedVersions.contains .v40 then
    note "Property is not part of vCard 4.0; writing it anyway." (some name)
  let (result, messages) := (codec.writeJson prop.value .v40).run'
  for m in messages do note m (some name)
  match result with
  | .error e => throw e
  | .ok (.skip why) =>
    note ("Property has requested that it be skipped: " ++ why) (some name)
    return none
  | .ok (.embedded _) =>
    note "Embedded vCards are not supported in jCard; property dropped." (some name)
    return none
  | .ok (.written values) =>
    let params := (codec.prepareParams prop (some self) .v40 (some card)).erase "VALUE"
    let members := paramObject params prop.group
    let dt := ((codec.dataType prop.value .v40).map (·.name)).getD "unknown"
    return some (.arr ([.str (Text.lower name), .obj members, .str dt] ++ values.items))

/-- The jCard of a card. -/
def cardArray (index : CodecIndex) (card : Card) : EmitM Json.Value := do
  let mut props : List Json.Value := [.arr [.str "version", .obj [], .str "text", .str "4.0"]]
  for (i, p) in (List.range card.properties.length).zip card.properties do
    if let some a ← propertyArray index card i p then
      props := props ++ [a]
  if !card.orphanedLabels.isEmpty then
    note (toString card.orphanedLabels.length ++ " label(s) match no address and were not written.") (some "LABEL")
  return .arr [.str "vcard", .arr props]

/-- Writes cards as a jCard document, indented when `pretty` is set; gives the
text and the warnings. -/
def write (index : CodecIndex) (cards : List Card) (pretty : Bool) : Except Error (String × List Warning) :=
  match (ExceptT.run (cards.mapM (cardArray index))).run [] with
  | (.ok arrays, ws) =>
    let data := match arrays with
      | [one] => one
      | _ => .arr arrays
    .ok (if pretty then Json.indented 0 data else Json.compact data, ws)
  | (.error e, _) => .error e

end JCard

end VCard
