import VCard.Codec.Text
import VCard.Codec.Table
import VCard.ContentLine.Logical
import VCard.ContentLine.Grammar
import VCard.ContentLine.Caret
import VCard.Encoding.Text
import VCard.Settings
import VCard.Warning
/-! Reading vCard text (RFC 2426, RFC 6350, and vCard 2.1).

Text is read a logical line at a time (`ContentLine.logicalLines`). Lines
outside a `BEGIN:VCARD` … `END:VCARD` pair are ignored, as is a line that is no
content line (with a warning inside a card). A card starts in version 2.1 until
a `VERSION` line says otherwise.

Inside a card, each content line becomes a property:

* parameters without a name (`TEL;HOME:…`) get one guessed from their value;
  in 3.0 and 4.0 values are caret-decoded (RFC 6868); a `TYPE` value holding
  commas is split;
* a quoted-printable value is decoded in its `CHARSET` (UTF-8 by default);
* `VALUE` declares the data type; without it the version's default applies;
* the property's codec reads the value. A value it cannot read is kept as raw
  text, with a warning. Before 4.0, a `LABEL` is set aside to be attached to an
  address when the card ends (`assignLabels`).

An `AGENT` holds an embedded card, either as escaped text in its value or as a
nested `BEGIN:VCARD` … `END:VCARD` right after it; a nested card that follows no
`AGENT`, or lies deeper than the depth limit, is read and dropped. A card still
open when the text ends is an error, the only one reading raises. -/
namespace VCard

namespace Vcf

open ContentLine

/-- A card being read. -/
structure Frame where
  card : Card
  /-- `LABEL` properties set aside, each with the number of addresses before it. -/
  labels : List (Property × Nat) := []
  /-- The position of an `AGENT` waiting for a nested card. -/
  pendingAgent : Option Nat := none
  depth : Int
  /-- Whether the card is read only to be dropped. -/
  discard : Bool := false

/-- What reading carries along: warnings and the data types created so far. -/
structure Session where
  warnings : List Warning := []
  types : DataType.Registry := {}

/-- Reading, which can fail only when a card is not closed. -/
abbrev ReadM := ExceptT Error (StateM Session)

def warn (message : String) (property : Option String) (line : Nat) : ReadM Unit :=
  modify fun s => { s with warnings := s.warnings ++ [⟨message, property, some line⟩] }

/-- The types of an address, compared as a set without regard to case. -/
def typeSet (p : Params) : List String := (p.types.map Text.lower).eraseDups.mergeSort (· ≤ ·)

/-- Gives an address property its label. -/
def withLabel (p : Property) (label : String) : Property :=
  match p.value with
  | .address a => { p with value := .address { a with label := some label } }
  | _ => p

/-- Whether a property is an address without a label. -/
def isUnlabelledAddress (p : Property) : Bool :=
  match p.value with
  | .address a => a.label.isNone
  | _ => false

/-- Positions of the properties of a name. -/
def positionsNamed (c : Card) (name : String) : List Nat :=
  ((List.range c.properties.length).zip c.properties).filterMap fun (i, p) =>
    if p.name == name then some i else none

/-- Attaches each label to the most recent of the addresses read before it that
has no label yet and the same types; a label without one is orphaned. -/
def assignLabels (c : Card) : List (Property × Nat) → Card
  | [] => c
  | (label, seen) :: rest =>
    let wanted := typeSet label.params
    let candidates := ((positionsNamed c "ADR").take seen).reverse
    let target := candidates.find? fun i =>
      match c.properties[i]? with
      | some p => isUnlabelledAddress p && typeSet p.params == wanted
      | none => false
    let text := match label.value with
      | .label (some t) => t
      | _ => ""
    let c := match target with
      | some i => { c with properties := c.properties.modify i (withLabel · text) }
      | none => { c with orphanedLabels := c.orphanedLabels ++ [label] }
    assignLabels c rest

/-- The parameters of a content line for a version. -/
def parameters (settings : Settings) (types : DataType.Registry) (raw : List (String × List String))
    (v : Version) : Params :=
  let caret := settings.caretEncoding && v != .v21
  raw.foldl (fun p (name, values) =>
    let (name, values) := if values.isEmpty then (guessParameterName types name, [name]) else (name, values)
    values.foldl (fun p value =>
      let value := if caret then caretDecode value else value
      if Text.upper name == "TYPE" && value.contains ',' then
        (value.splitOn ",").foldl (fun p part => if part.isEmpty then p else p.put name part) p
      else p.put name value) p) {}

/-- Decodes a quoted-printable value in its character set, dropping `ENCODING`
and `CHARSET`. -/
def decodeQuotedPrintable (value : String) (params : Params) (name : String) (line : Nat) :
    ReadM (String × Params) := do
  let charset := match params.get? "CHARSET" with
    | some c => if c.isEmpty then "utf-8" else c
    | none => "utf-8"
  let decoded ← match Encoding.decodeQuotedPrintableText value charset with
    | .ok d => pure d
    | .error e => throw e
  let text ← match decoded with
    | .clean t => pure t
    | .unknownCharset t =>
      warn ("Unknown CHARSET=" ++ charset ++ "; decoding as UTF-8.") (some name) line
      pure t
    | .replaced t =>
      warn ("Value is not valid " ++ charset ++ "; undecodable bytes were replaced.") (some name) line
      pure t
  pure (text, (params.erase "ENCODING").erase "CHARSET")

/-- Reads the first card of a text; used for cards embedded in a property. -/
abbrev EmbeddedReader := String → Int → String → Nat → ReadM (Option Card)

/-- Reads one content line into the card on top of the stack. -/
def readProperty (index : CodecIndex) (settings : Settings) (embedded : EmbeddedReader) (frame : Frame)
    (parsed : Parsed) (line : Nat) : ReadM Frame := do
  let card := frame.card
  let v := card.version
  let name := parsed.name
  let key := Text.upper name
  let params := parameters settings (← get).types parsed.params v
  let quoted := (params.get? "ENCODING").any (Text.lower · == "quoted-printable")
  let (value, params) ← if quoted then decodeQuotedPrintable parsed.value params name line
    else pure (parsed.value, params)
  let codec := index.codecFor name
  let explicit ← match params.get? "VALUE" with
    | some raw =>
      if raw.isEmpty then pure none
      else
        let (dt, types) := (← get).types.get raw
        modify fun s => { s with types }
        pure (some dt)
    | none => pure none
  let params := params.erase "VALUE"
  let dt := explicit.orElse fun _ => codec.defaultDataType v
  let r := (codec.readText value dt).run' v params (← get).types
  modify fun s => { s with types := r.types }
  let noteWarnings : ReadM Unit := r.warnings.forM fun m => warn m (some key) line
  let addProperty (p : Property) : Frame := { frame with card := card.add p }
  match r.reading with
  | .value x =>
    noteWarnings
    let p := Property.make name x r.params parsed.group
    match x with
    | .label _ =>
      if v != .v40 then return { frame with labels := frame.labels ++ [(p, (positionsNamed card "ADR").length)] }
      else return addProperty p
    | _ => return addProperty p
  | .skip why =>
    warn ("Property has requested that it be skipped: " ++ why) (some key) line
    return frame
  | .cannotParse why =>
    warn ("Property value could not be parsed and is kept as raw text: " ++ why) (some key) line
    return addProperty (Property.make name (.raw value explicit) r.params parsed.group)
  | .embedded text =>
    noteWarnings
    let position := card.properties.length
    let frame := addProperty (Property.make name (.agent .empty) r.params parsed.group)
    match text with
    | none => return { frame with pendingAgent := some position }
    | some t =>
      match ← embedded t (frame.depth + 1) key line with
      | some child =>
        return { frame with card := { frame.card with
          properties := frame.card.properties.modify position fun p => { p with value := .agent (.card child) } } }
      | none => return frame

/-- Opens a card: the outermost one, or one nested in the card on top. -/
def «begin» (settings : Settings) (depth : Int) (stack : List Frame) (line : Nat) : ReadM (List Frame) := do
  match stack with
  | [] => return [{ card := { version := .v21 }, depth }]
  | parent :: _ =>
    let frame : Frame := { card := { version := parent.card.version }, depth := parent.depth + 1,
                           discard := parent.discard }
    if parent.pendingAgent.isNone then
      warn "Nested vCard is not attached to an AGENT property; ignoring it." none line
      return { frame with discard := true } :: stack
    else if frame.depth > settings.maxEmbeddedDepth then
      warn ("Embedded vCard nested deeper than " ++ toString settings.maxEmbeddedDepth ++
        " levels; ignoring it.") (some "AGENT") line
      return { frame with discard := true } :: stack
    else return frame :: stack

/-- Closes the card on top: gives it when it is the outermost one, and otherwise
hands it to the `AGENT` waiting for it. -/
def «end» (stack : List Frame) (line : Nat) : ReadM (Option Card × List Frame) := do
  match stack with
  | [] => return (none, [])
  | frame :: rest =>
    let card := assignLabels frame.card frame.labels
    if frame.pendingAgent.isSome then
      warn "AGENT property was not followed by an embedded vCard." (some "AGENT") line
    match rest with
    | [] => return (some card, [])
    | parent :: others =>
      let parentCard := match parent.pendingAgent with
        | some i =>
          if frame.discard then parent.card
          else { parent.card with properties := parent.card.properties.modify i fun p =>
            match p.value with
            | .agent a => { p with value := .agent (a.setCard (some card)) }
            | _ => p }
        | none => parent.card
      return (none, { parent with card := parentCard, pendingAgent := none } :: others)

/-- Reads lines until a card ends; gives the card (none when the text ends
outside a card) and the lines left. `last` is the number of the last line read. -/
def readNext (index : CodecIndex) (settings : Settings) (embedded : EmbeddedReader) (depth : Int) :
    List LogicalLine → List Frame → Nat → ReadM (Option Card × List LogicalLine)
  | [], stack, last =>
    if stack.isEmpty then pure (none, []) else throw (.framing (some last) "vCard is missing END:VCARD")
  | l :: rest, stack, _ => do
    match parse l.text with
    | none =>
      if !stack.isEmpty then
        warn ("Skipping malformed line: " ++ Text.quote (String.ofList (l.text.toList.take 60))) none l.number
      readNext index settings embedded depth rest stack l.number
    | some parsed =>
      let key := Text.upper parsed.name
      let isCard := Text.upper (Text.trim parsed.value) == "VCARD"
      if key == "BEGIN" then
        let stack ← if isCard then «begin» settings depth stack l.number else pure stack
        readNext index settings embedded depth rest stack l.number
      else if key == "END" then
        if !isCard || stack.isEmpty then readNext index settings embedded depth rest stack l.number
        else
          match ← «end» stack l.number with
          | (some card, _) => pure (some card, rest)
          | (none, stack) => readNext index settings embedded depth rest stack l.number
      else
        match stack with
        | [] => readNext index settings embedded depth rest stack l.number
        | frame :: others =>
          if key == "VERSION" then
            match Version.find? parsed.value with
            | some v =>
              readNext index settings embedded depth rest ({ frame with card := { frame.card with version := v } } :: others) l.number
            | none =>
              warn ("Unknown version " ++ Text.quote parsed.value ++ "; reading as " ++ frame.card.version.text ++ ".")
                (some key) l.number
              readNext index settings embedded depth rest stack l.number
          else
            let frame ← readProperty index settings embedded frame parsed l.number
            readNext index settings embedded depth rest (frame :: others) l.number

/-- Reads the first card of embedded text, at a depth, for the property of a
name on a line; `fuel` bounds how deeply embedded texts are followed. The
embedded text's warnings are reported with the property's name before them. -/
def readEmbedded (index : CodecIndex) (settings : Settings) : Nat → EmbeddedReader
  | 0, _, _, _, _ => pure none
  | fuel + 1, text, depth, name, line => do
    if depth > settings.maxEmbeddedDepth then
      warn ("Embedded vCard nested deeper than " ++ toString settings.maxEmbeddedDepth ++ " levels; ignoring it.")
        (some name) line
      return none
    let outer ← get
    let reading := readNext index settings (readEmbedded index settings fuel) depth (logicalLines text) [] 0
    let (r, inner) := (ExceptT.run reading).run { types := outer.types }
    -- a card left open is reported; any other failure of the embedded text fails the reading
    let (child, failure) ← match r with
      | .ok (c, _) => pure ((c, []) : Option Card × List Warning)
      | .error e@(.framing ..) =>
        pure (none, [⟨"Embedded vCard could not be read: " ++ e.message, some name, some line⟩])
      | .error e => throw e
    set ({ warnings := outer.warnings ++ failure ++ inner.warnings.map (Warning.prefixed · (name ++ ": ")),
           types := inner.types } : Session)
    if child.isNone && inner.warnings.isEmpty then
      warn "Embedded vCard text holds no vCard." (some name) line
    return child

/-- Reads the cards of lines, one after the other, until no card is left. -/
def readCards (index : CodecIndex) (settings : Settings) (embedded : EmbeddedReader) :
    Nat → List LogicalLine → ReadM (List Card)
  | 0, _ => pure []
  | fuel + 1, lines => do
    match ← readNext index settings embedded 0 lines [] 0 with
    | (some c, rest) => return c :: (← readCards index settings embedded fuel rest)
    | (none, _) => return []

/-- Reads every card of vCard text. -/
def read (index : CodecIndex) (settings : Settings) (text : String) : ReadM (List Card) :=
  let lines := logicalLines text
  readCards index settings (readEmbedded index settings (text.length + 1)) (lines.length + 1) lines

end Vcf

end VCard
