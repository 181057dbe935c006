import VCard.Card
import VCard.Text.Escape
/-! Property codecs: how the values of each property are read and written.

Each property name has a *shape* (`Shape`) that fixes how its values look in
every format: a single text, a URI, a telephone number, a structured name, a
date and so on. A codec (`Codec`) is a property name with its shape and whether
it takes part in preference handling (`PREF`).

This module holds what does not depend on the format: the data type a value is
written with in each version (`Codec.dataType`), the one announced in a `VALUE`
parameter when it differs from the default (`Codec.valueParameter`), and the
outcomes of reading and writing.

Reading a value may change its parameters (a label or a media type moves from
the parameters into the value) and may warn; it ends with a value, or stops: the
property asks to be skipped, cannot be read (its text is then kept as it is), or
holds an embedded card still to be read. Writing ends with the written form or
stops: skipped, an embedded card to write, or a failure of the value itself. -/
namespace VCard

/-- How the values of a property look. -/
inductive Shape where
  /-- One text value of the given data type. -/
  | text (dataType : DataType) (hcardClass : Option String)
  /-- A URI; `textBefore40` makes it plain text before version 4.0. -/
  | uri (textBefore40 : Bool)
  | email
  /-- Text with a `LEVEL` among the given ones and an `INDEX`. -/
  | leveled (levels : List String)
  | telephone
  | related
  | gender
  | xml
  /-- A value kept as written. -/
  | raw
  | address
  | label
  | structuredName
  | textList (delimiter : String) (hcardClass : Option String)
  | geo
  | clientPidMap
  /-- Binary content; `textAllowed` admits a text value (keys). -/
  | binary (textAllowed : Bool)
  | dateOrTime
  | timestamp
  | timezone
  | place
  | agent
  deriving DecidableEq, Repr

/-- A property name with the shape of its values. -/
structure Codec where
  /-- The property name, in capitals. -/
  name : String
  shape : Shape
  /-- Whether `PREF` and `TYPE=pref` are converted between versions. -/
  pref : Bool := false
  deriving DecidableEq, Repr

namespace Codec

/-- The codec that keeps values of a property as written. -/
def raw (name : String) : Codec := ⟨Text.upper name, .raw, false⟩

def supportedVersions (c : Codec) : List Version := propertyVersions c.name

/-- The class name that marks the property in hCard. -/
def hcardClassName (c : Codec) : String :=
  let own := match c.shape with
    | .text _ h | .textList _ h => h
    | _ => none
  match own with
  | some h => if h.isEmpty then Text.lower c.name else h
  | none => Text.lower c.name

/-- The local name of the property's xCard element. -/
def xmlName (c : Codec) : String := Text.lower c.name

/-- The data type a version writes the property with by default. -/
def defaultDataType (c : Codec) (v : Version) : Option DataType :=
  match c.shape with
  | .text dt _ => some dt
  | .uri textBefore40 =>
    if v != .v40 && textBefore40 then some .text else some (if v == .v21 then .url else .uri)
  | .related => some .uri
  | .raw | .agent => none
  | .geo => if v == .v40 then some .uri else none
  | .binary _ => match v with
    | .v21 => none
    | .v30 => some .binary
    | .v40 => some .uri
  | .dateOrTime => match v with
    | .v21 => none
    | .v30 => some .date
    | .v40 => some .dateAndOrTime
  | .timestamp => match v with
    | .v21 => none
    | .v30 => some .dateTime
    | .v40 => some .timestamp
  | .timezone => if v == .v40 then some .text else some .utcOffset
  | _ => some .text

/-- The data type of URLs in a version. -/
def uriType (v : Version) : DataType := if v == .v21 then .url else .uri

/-- The data type a value is written with in a version. -/
def dataType (c : Codec) (value : Value) (v : Version) : Option DataType :=
  let default := c.defaultDataType v
  match c.shape, value with
  | .telephone, .telephone t => if t.uri?.isSome && v == .v40 then some .uri else some .text
  | .related, .related r => if r.text?.isSome then some .text else some .uri
  | .raw, .raw _ dt => dt
  | .binary _, .binary b =>
    if b.url?.isSome then some (uriType v) else if b.text?.isSome then some .text else default
  | .dateOrTime, .dateOrTime d =>
    match d with
    | .text _ => some .text
    | .date s => if v == .v21 then none else some (if s.hasTime then .dateTime else .date)
    | .partialDate p =>
      if v == .v21 then none
      else if p.hasDate && p.hasTime then some .dateTime
      else if p.hasTime then some .time else some .date
    | .empty => if v == .v21 then none else default
  | .timezone, .timezone offset text =>
    match v with
    | .v21 => some .utcOffset
    | .v30 => if offset.isSome then some .utcOffset else some .text
    | .v40 => if text.isSome then some .text else some .utcOffset
  | .place, .place p => if p.text?.isSome then some .text else some .uri
  | .agent, .agent a => if a.url?.isSome then some (uriType v) else none
  | _, _ => default

/-- The data type to announce in a `VALUE` parameter: none when it is the
default, or a date or time where the default is `date-and-or-time`. -/
def valueParameter (c : Codec) (value : Value) (v : Version) : Option DataType :=
  match c.dataType value v with
  | none => none
  | some dt =>
    let default := c.defaultDataType v
    if default == some dt then none
    else if default == some .dateAndOrTime && [DataType.date, .dateTime, .time].contains dt then none
    else some dt

end Codec

/-- Why reading a property value stopped without a value. -/
inductive ReadStop where
  /-- The property asks to be dropped. -/
  | skip (reason : String)
  /-- The value is malformed; its text is kept as written. -/
  | cannotParse (reason : String)
  /-- The property holds an embedded card: its text, or none when the card
  follows as nested lines. -/
  | embedded (text : Option String)

/-- What reading a property value changes besides its result: the parameters
and the warnings. -/
structure ReadState where
  version : Version
  params : Params
  /-- Extension data types created so far. -/
  types : DataType.Registry := {}
  warnings : List String := []

/-- Reading a property value. -/
abbrev ReadM := ExceptT ReadStop (StateM ReadState)

namespace ReadM

def warn (msg : String) : ReadM Unit := modify fun s => { s with warnings := s.warnings ++ [msg] }

def cannotParse {α : Type} (reason : String) : ReadM α := throw (.cannotParse reason)

def version : ReadM Version := do return (← get).version

def params : ReadM Params := do return (← get).params

def setParams (p : Params) : ReadM Unit := modify fun s => { s with params := p }

/-- Drops every value of a parameter; gives the values dropped. -/
def takeParam (name : String) : ReadM (List String) := do
  let (removed, p) := (← params).removeAll name
  setParams p
  pure removed

/-- A failure of a value rule, as a value that cannot be read. -/
def ofExcept {α : Type} : Except Error α → ReadM α
  | .ok a => pure a
  | .error e => cannotParse e.message

end ReadM

/-- The outcome of reading a property value. -/
inductive Reading where
  | value (v : Value)
  | skip (reason : String)
  | cannotParse (reason : String)
  | embedded (text : Option String)

/-- The outcome of reading, with the parameters and warnings after it. -/
structure ReadResult where
  reading : Reading
  params : Params
  types : DataType.Registry
  warnings : List String

/-- Runs a reading. -/
def ReadM.run' (m : ReadM Value) (v : Version) (p : Params) (types : DataType.Registry) : ReadResult :=
  let (r, s) := (ExceptT.run m).run { version := v, params := p, types }
  let reading := match r with
    | .ok value => .value value
    | .error (.skip why) => .skip why
    | .error (.cannotParse why) => .cannotParse why
    | .error (.embedded text) => .embedded text
  ⟨reading, s.params, s.types, s.warnings⟩

/-- Why writing a property value stopped without a written form. -/
inductive WriteStop where
  | skip (reason : String)
  /-- The value is an embedded card, to be written by the caller. -/
  | embedded (c : Card)
  /-- The value cannot be written at all. -/
  | failure (e : Error)

/-- Writing a property value, with warnings. -/
abbrev WriteM := ExceptT WriteStop (StateM (List String))

namespace WriteM

def warn (msg : String) : WriteM Unit := modify fun ws => ws ++ [msg]

def skip {α : Type} (reason : String) : WriteM α := throw (.skip reason)

def ofExcept {α : Type} : Except Error α → WriteM α
  | .ok a => pure a
  | .error e => throw (.failure e)

end WriteM

/-- The outcome of writing a property value. -/
inductive Writing (α : Type) where
  | written (a : α)
  | skip (reason : String)
  | embedded (c : Card)

/-- Runs a writing: its outcome or failure, and its warnings. -/
def WriteM.run' {α : Type} (m : WriteM α) : Except Error (Writing α) × List String :=
  let (r, ws) := (ExceptT.run m).run []
  let out := match r with
    | .ok a => .ok (.written a)
    | .error (.skip why) => .ok (.skip why)
    | .error (.embedded c) => .ok (.embedded c)
    | .error (.failure e) => .error e
  (out, ws)

/-- Escaping for text values of a version: 2.1 keeps line breaks. -/
def escapeFor (v : Version) (s : String) : String := Text.escape s (v != .v21)

/-- Whether text starts with a prefix, without regard to case. -/
def startsWithNoCase (s pre : String) : Bool :=
  (Text.lower pre).toList.isPrefixOf (Text.lower s).toList

end VCard
