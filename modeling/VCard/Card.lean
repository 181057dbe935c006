import VCard.DataType
import VCard.Params
import VCard.Time.Partial
import VCard.Geo
/-! Contacts: property values, properties and cards (RFC 6350 §6).

A card is a version and an ordered list of properties; a property is a name in
capitals, an optional group, parameters and a value. Values come in a closed set
of shapes (`Value`), chosen by what the property holds: free text, a list, a
structured name or address, a date, and so on.

Several shapes hold *one of* a few alternatives: a telephone is text or a URI, a
photo a URL, inline bytes or text. Such a value is an inductive with an `empty`
case, so holding two alternatives at once cannot be written. Assigning an
alternative replaces whatever was held; clearing an alternative empties the value
only when that alternative is the one held (`assignSlot`). Building one from
several given alternatives fails, naming them (`checkSlots`).

An `AGENT` may hold a whole card, so values, properties and cards are one mutual
family. -/
namespace VCard

/-- A structured name: family and given names, then additional names, honorific
prefixes and suffixes. -/
structure StructuredName where
  family : Option String := none
  given : Option String := none
  additional : List String := []
  prefixes : List String := []
  suffixes : List String := []
  deriving DecidableEq, Repr, Inhabited

/-- A postal address: seven components, each possibly with several values, and
the text of its label. -/
structure Address where
  poBoxes : List String := []
  extended : List String := []
  streets : List String := []
  localities : List String := []
  regions : List String := []
  postalCodes : List String := []
  countries : List String := []
  label : Option String := none
  deriving DecidableEq, Repr, Inhabited

namespace Address

/-- The seven components in their written order. -/
def components (a : Address) : List (List String) :=
  [a.poBoxes, a.extended, a.streets, a.localities, a.regions, a.postalCodes, a.countries]

/-- The address of up to seven components; missing ones are empty. -/
def ofComponents (cs : List (List String)) (label : Option String := none) : Address :=
  let c (i : Nat) := cs.getD i []
  ⟨c 0, c 1, c 2, c 3, c 4, c 5, c 6, label⟩

/-- Whether every component is an empty list. -/
def isEmpty (a : Address) : Bool := a.components.all List.isEmpty

/-- The first value of a component. -/
def firstOf (items : List String) : Option String := items.head?

/-- A component of one value, or of none. -/
def single (v : Option String) : List String :=
  match v with
  | some s => [s]
  | none => []

theorem firstOf_single (v : Option String) : firstOf (single v) = v := by
  cases v <;> rfl

end Address

/-- Stores an alternative of a one-of value: a given value replaces whatever was
held, and clearing leaves the value empty only when this alternative is held. -/
def assignSlot {α β : Type} (holds : α → Bool) (empty : α) (make : β → α) (cur : α) :
    Option β → α
  | some v => make v
  | none => if holds cur then empty else cur

/-- Accepts at most one of the named alternatives. -/
def checkSlots (typeName : String) (given : List (String × Bool)) : Except Error Unit :=
  let named := (given.filter (·.2)).map (·.1)
  if named.length > 1 then .error (.severalSlots typeName named) else .ok ()

/-- A telephone number: free text or a `tel:` URI. -/
inductive Telephone where
  | empty
  | text (s : String)
  | uri (s : String)
  deriving DecidableEq, Repr, Inhabited

/-- A related entity: a URI or free text. -/
inductive Related where
  | empty
  | uri (s : String)
  | text (s : String)
  deriving DecidableEq, Repr, Inhabited

/-- Where binary content lives: a URL, inline bytes, or text (for keys). -/
inductive BinarySource where
  | empty
  | url (s : String)
  | data (bytes : List UInt8)
  | text (s : String)
  deriving DecidableEq, Repr, Inhabited

/-- Binary content and its media type, which survives switching alternatives. -/
structure Binary where
  source : BinarySource := .empty
  contentType : Option String := none
  deriving DecidableEq, Repr, Inhabited

/-- A date-like value: a complete date or date-time, a partial date, or text. -/
inductive DateOrTime where
  | empty
  | date (s : Stamp)
  | partialDate (p : PartialDate)
  | text (s : String)
  deriving DecidableEq, Repr, Inhabited

/-- A place: text, a URI or coordinates. -/
inductive Place where
  | empty
  | text (s : String)
  | uri (s : String)
  | geo (g : GeoUri)
  deriving Inhabited

mutual

/-- An agent: a URL or a whole card. -/
inductive Agent where
  | empty
  | url (s : String)
  | card (c : Card)

/-- The value of a property. -/
inductive Value where
  /-- Text or a URI. -/
  | text (value : Option String)
  | label (value : Option String)
  | xml (value : Option String)
  /-- A value kept as written, with the data type it was given. -/
  | raw (value : String) (dataType : Option DataType)
  | timestamp (value : Option Stamp)
  | textList (values : List String) (delimiter : String)
  | geo (latitude longitude : Option Float)
  | gender (sex identity : Option String)
  | clientPidMap (pid : Option Int) (uri : Option String)
  /-- A UTC offset, a zone name, or both. -/
  | timezone (offset : Option UtcOffset) (text : Option String)
  | name (n : StructuredName)
  | address (a : Address)
  | telephone (t : Telephone)
  | related (r : Related)
  | binary (b : Binary)
  | dateOrTime (d : DateOrTime)
  | place (p : Place)
  | agent (a : Agent)

/-- A property: group, name in capitals, parameters and value. -/
structure Property where
  group : Option String := none
  name : String
  params : Params := {}
  value : Value

/-- A card: its version, its properties in order, and the labels that matched no
address when it was read. -/
structure Card where
  version : Version := .v30
  properties : List Property := []
  orphanedLabels : List Property := []

end

instance : Inhabited Value := ⟨.text none⟩

instance : Inhabited Card := ⟨{}⟩

namespace Telephone

def text? : Telephone → Option String
  | .text s => some s
  | _ => none

def uri? : Telephone → Option String
  | .uri s => some s
  | _ => none

def setText (t : Telephone) : Option String → Telephone :=
  assignSlot (·.text?.isSome) .empty .text t

def setUri (t : Telephone) : Option String → Telephone :=
  assignSlot (·.uri?.isSome) .empty .uri t

def isEmpty (t : Telephone) : Bool := t matches .empty

/-- The telephone of at most one given alternative. -/
def make (text uri : Option String) : Except Error Telephone := do
  checkSlots "Telephone" [("text", text.isSome), ("uri", uri.isSome)]
  pure <| match text, uri with
    | some s, _ => .text s
    | _, some s => .uri s
    | _, _ => .empty

end Telephone

namespace Related

def uri? : Related → Option String
  | .uri s => some s
  | _ => none

def text? : Related → Option String
  | .text s => some s
  | _ => none

def setUri (r : Related) : Option String → Related :=
  assignSlot (·.uri?.isSome) .empty .uri r

def setText (r : Related) : Option String → Related :=
  assignSlot (·.text?.isSome) .empty .text r

def isEmpty (r : Related) : Bool := r matches .empty

def make (uri text : Option String) : Except Error Related := do
  checkSlots "Related" [("uri", uri.isSome), ("text", text.isSome)]
  pure <| match uri, text with
    | some s, _ => .uri s
    | _, some s => .text s
    | _, _ => .empty

end Related

namespace Binary

def url? (b : Binary) : Option String :=
  match b.source with
  | .url s => some s
  | _ => none

def data? (b : Binary) : Option (List UInt8) :=
  match b.source with
  | .data d => some d
  | _ => none

def text? (b : Binary) : Option String :=
  match b.source with
  | .text s => some s
  | _ => none

def setUrl (b : Binary) (v : Option String) : Binary :=
  { b with source := assignSlot (· matches .url _) .empty .url b.source v }

def setData (b : Binary) (v : Option (List UInt8)) : Binary :=
  { b with source := assignSlot (· matches .data _) .empty .data b.source v }

def setText (b : Binary) (v : Option String) : Binary :=
  { b with source := assignSlot (· matches .text _) .empty .text b.source v }

def isEmpty (b : Binary) : Bool := b.source matches .empty

def make (url : Option String) (data : Option (List UInt8)) (text contentType : Option String) :
    Except Error Binary := do
  checkSlots "BinaryValue" [("url", url.isSome), ("data", data.isSome), ("text", text.isSome)]
  let source : BinarySource := match url, data, text with
    | some s, _, _ => .url s
    | _, some d, _ => .data d
    | _, _, some s => .text s
    | _, _, _ => .empty
  pure ⟨source, contentType⟩

end Binary

namespace DateOrTime

def date? : DateOrTime → Option Stamp
  | .date s => some s
  | _ => none

def partialDate? : DateOrTime → Option PartialDate
  | .partialDate p => some p
  | _ => none

def text? : DateOrTime → Option String
  | .text s => some s
  | _ => none

def setDate (d : DateOrTime) : Option Stamp → DateOrTime :=
  assignSlot (·.date?.isSome) .empty .date d

def setPartialDate (d : DateOrTime) : Option PartialDate → DateOrTime :=
  assignSlot (·.partialDate?.isSome) .empty .partialDate d

def setText (d : DateOrTime) : Option String → DateOrTime :=
  assignSlot (·.text?.isSome) .empty .text d

def isEmpty (d : DateOrTime) : Bool := d matches .empty

/-- Whether the value carries a time of day. -/
def hasTime : DateOrTime → Bool
  | .date s => s.hasTime
  | .partialDate p => p.hasTime
  | _ => false

def make (date : Option Stamp) (part : Option PartialDate) (text : Option String) :
    Except Error DateOrTime := do
  checkSlots "DateOrTime" [("date", date.isSome), ("partial", part.isSome), ("text", text.isSome)]
  pure <| match date, part, text with
    | some s, _, _ => .date s
    | _, some p, _ => .partialDate p
    | _, _, some s => .text s
    | _, _, _ => .empty

end DateOrTime

namespace Place

def text? : Place → Option String
  | .text s => some s
  | _ => none

def uri? : Place → Option String
  | .uri s => some s
  | _ => none

def geo? : Place → Option GeoUri
  | .geo g => some g
  | _ => none

def setText (p : Place) : Option String → Place :=
  assignSlot (·.text?.isSome) .empty .text p

def setUri (p : Place) : Option String → Place :=
  assignSlot (·.uri?.isSome) .empty .uri p

def setGeo (p : Place) : Option GeoUri → Place :=
  assignSlot (·.geo?.isSome) .empty .geo p

def isEmpty (p : Place) : Bool := p matches .empty

def make (text uri : Option String) (geo : Option GeoUri) : Except Error Place := do
  checkSlots "Place" [("text", text.isSome), ("uri", uri.isSome), ("geo", geo.isSome)]
  pure <| match text, uri, geo with
    | some s, _, _ => .text s
    | _, some s, _ => .uri s
    | _, _, some g => .geo g
    | _, _, _ => .empty

end Place

namespace Agent

def url? : Agent → Option String
  | .url s => some s
  | _ => none

def card? : Agent → Option Card
  | .card c => some c
  | _ => none

def setUrl (a : Agent) : Option String → Agent :=
  assignSlot (·.url?.isSome) .empty .url a

def setCard (a : Agent) : Option Card → Agent :=
  assignSlot (·.card?.isSome) .empty .card a

def isEmpty (a : Agent) : Bool := a matches .empty

def make (url : Option String) (card : Option Card) : Except Error Agent := do
  checkSlots "Agent" [("url", url.isSome), ("vcard", card.isSome)]
  pure <| match url, card with
    | some s, _ => .url s
    | _, some c => .card c
    | _, _ => .empty

end Agent

theorem assignSlot_some {α β : Type} (holds : α → Bool) (empty : α) (make : β → α) (cur : α)
    (v : β) : assignSlot holds empty make cur (some v) = make v := rfl

theorem assignSlot_none_other {α β : Type} (holds : α → Bool) (empty : α) (make : β → α)
    (cur : α) (h : holds cur = false) : assignSlot holds empty make cur none = cur := by
  simp [assignSlot, h]

namespace Property

/-- A property of a name (stored in capitals), value, parameters and group. -/
def make (name : String) (value : Value) (params : Params := {}) (group : Option String := none) :
    Property :=
  ⟨group, Text.upper name, params, value⟩

end Property

namespace Card

/-- The properties of a name, in order. -/
def propertiesNamed (c : Card) (name : String) : List Property :=
  c.properties.filter (·.name == Text.upper name)

/-- The first property of a name. -/
def first? (c : Card) (name : String) : Option Property := (c.propertiesNamed name).head?

/-- The text of the first `FN`, when it is a text value. -/
def formattedName (c : Card) : Option String :=
  match c.first? "FN" with
  | some { value := .text v, .. } => v
  | _ => none

def add (c : Card) (p : Property) : Card := { c with properties := c.properties ++ [p] }

end Card

end VCard
