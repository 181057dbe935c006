import VCard.Codec.Json
import VCard.Codec.Table
import VCard.Json.Read
import VCard.Warning
/-! Reading jCard documents (RFC 7095).

A jCard is the array `["vcard", [property, …]]`, and a document is one jCard or
an array of them. A property is `[name, parameters, type, value…]`: parameters
are an object whose members are values or arrays of values (the member `group`
names the property's group), the type is a data type name (`unknown` for none),
and the values are read by the property's codec (`Codec.readJson`).

Every card is of version 4.0. A property array with fewer than three members
is skipped with a warning, and so is a missing `VERSION`; a value that cannot be
read is kept as raw text. JSON that does not parse, or a document that is not
an array of jCards, is an error. -/
namespace VCard

namespace JCard

/-- The parameters and group of a property's parameter object. -/
def readParameters (raw : Json.Value) : Params × Option String :=
  match raw with
  | .obj members =>
    members.foldl (fun (acc : Params × Option String) (name, value) =>
      if Text.lower name == "group" then
        let g := value.plain
        (acc.1, if g.isEmpty then none else some g)
      else
        let items := match value with
          | .arr xs => xs
          | v => [v]
        (items.foldl (fun p item => p.put name item.plain) acc.1, acc.2)) ({}, none)
  | _ => ({}, none)

/-- What reading jCard carries along: warnings and the data types created so far. -/
structure Session where
  warnings : List Warning := []
  types : DataType.Registry := {}

def Session.note (s : Session) (message : String) (property : Option String) : Session :=
  { s with warnings := s.warnings ++ [⟨message, property, none⟩] }

/-- Reads a property of a name, parameters and group from its data type and
values, into a card. -/
def readWithParams (index : CodecIndex) (name : String) (params : Params) (group : Option String)
    (rawType : Json.Value) (values : List Json.Value) (st : Card × Session) : Card × Session :=
  let (card, s) := st
  let typeName := Text.lower rawType.plain
  let (dt, types) := if typeName == "unknown" then (none, s.types)
    else
      let (d, r) := s.types.get typeName
      (some d, r)
  let s := { s with types }
  let value : Values := ⟨values⟩
  let codec := index.codecFor name
  let r := (codec.readJson value dt).run' .v40 params s.types
  let s := { s with types := r.types }
  let noted := r.warnings.foldl (fun s m => s.note m (some name)) s
  match r.reading with
  | .value v => (card.add (Property.make name v r.params group), noted)
  | .skip why => (card, s.note ("Property has requested that it be skipped: " ++ why) (some name))
  | .cannotParse why =>
    (card.add (Property.make name (.raw value.toText dt) r.params group),
      s.note ("Property value could not be parsed and is kept as raw text: " ++ why) (some name))
  | .embedded _ => (card, noted.note "Embedded vCards are not supported in jCard; property dropped." (some name))

/-- Reads one property array into a card. -/
def readProperty (index : CodecIndex) (name : String) (rawParams rawType : Json.Value) (values : List Json.Value)
    (st : Card × Session) : Card × Session :=
  let fields := readParameters rawParams
  readWithParams index name fields.1 fields.2 rawType values st

/-- Reads one jCard. -/
def readCard (index : CodecIndex) (data : Json.Value) (s : Session) : Except Error (Card × Session) :=
  match data with
  | .arr (.str "vcard" :: .arr entries :: _) =>
    let step (st : Card × Session × Bool) (entry : Json.Value) : Card × Session × Bool :=
      let (card, s, seen) := st
      match entry with
      | .arr (first :: rawParams :: rawType :: values) =>
        let name := Text.upper first.plain
        if name == "VERSION" then
          let s := match values with
            | v :: _ =>
              if v matches .str "4.0" then s
              else s.note ("jCard version is " ++ v.literal ++ "; reading it as 4.0.") (some name)
            | [] => s
          (card, s, true)
        else
          let (card, s) := readProperty index name rawParams rawType values (card, s)
          (card, s, seen)
      | _ => (card, s.note ("Skipping malformed jCard property: " ++ entry.literal) none, seen)
    let (card, s, seen) := entries.foldl step ({ version := .v40 }, s, false)
    .ok (card, if seen then s else s.note "jCard has no VERSION property." (some "VERSION"))
  | _ => .error (.framing none "jCard must be an array starting with \"vcard\"")

/-- Reads a jCard document: one jCard or an array of them. -/
def read (index : CodecIndex) (types : DataType.Registry) (text : String) :
    Except Error (List Card × Session) := do
  let data ← match Json.parseText text with
    | .ok d => pure d
    | .error msg => throw (.framing none ("jCard is not valid JSON: " ++ msg))
  let cards ← match data with
    | .arr (.str "vcard" :: _) => pure [data]
    | .arr items => pure items
    | _ => throw (.framing none "jCard must be an array")
  cards.foldlM (fun (acc : List Card × Session) d => do
    let (c, s) ← readCard index d acc.2
    return (acc.1 ++ [c], s)) ([], { types })

end JCard

end VCard
