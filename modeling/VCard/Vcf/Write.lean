import VCard.Codec.Text
import VCard.Codec.Table
import VCard.Codec.Prepare
import VCard.ContentLine.Fold
import VCard.ContentLine.Caret
import VCard.Encoding.Text
import VCard.Settings
import VCard.Warning
/-! Writing vCard text.

A card is written as `BEGIN:VCARD`, `VERSION`, its properties in order, and
`END:VCARD`, all in the writer's version whatever version the card was read in.
Before 4.0 an address's label becomes a `LABEL` property right after it, and
labels that belong to no address follow the properties. A `PRODID` naming this
library is added when asked for and the card has none (not in 2.1).

Each property is written by its codec with the parameters prepared for the
version (`Codec.prepareParams`) and a `VALUE` when its data type is not the
default. A property the version does not know is written anyway, with a
warning; one whose codec asks to skip it is dropped, with a warning.

In 3.0 and 4.0 parameter values are caret-encoded (RFC 6868) when that is on;
otherwise quotes become apostrophes and line breaks spaces. A value holding `,`,
`;` or `:` is quoted. 2.1 repeats a parameter name for each value; later versions
join the values with commas. A 2.1 value with a line break is written
quoted-printable in its `CHARSET` (UTF-8 by default), unfolded.

An embedded card is written, in 2.1, as nested lines after an empty `AGENT`, and
later as the escaped text of the whole card (unfolded) in the `AGENT` value; its
warnings carry the property's name. Past the depth limit it is dropped. -/
namespace VCard

namespace Vcf

/-- What writing is set to: the version, the settings and the codecs. -/
structure Writer where
  version : Version
  settings : Settings := {}
  index : CodecIndex := defaultIndex

/-- Writing, with warnings; a value that cannot be written at all fails. -/
abbrev EmitM := ExceptT Error (StateM (List Warning))

def note (message : String) (property : Option String) : EmitM Unit :=
  modify fun ws => ws ++ [⟨message, property, none⟩]

/-- The identifier this library writes as `PRODID`. -/
def productId : String := "-//vcard-scribe//EN"

namespace Writer

/-- A line, folded when asked and a line length is set. -/
def line (w : Writer) (fold : Bool) (text : String) : String :=
  if fold && w.settings.lineLength != 0 then ContentLine.foldLine w.settings.lineLength text
  else text ++ "\r\n"

def paramValue (w : Writer) (value : String) : String :=
  ContentLine.quoteParamValue
    (if w.version != .v21 && w.settings.caretEncoding then ContentLine.caretEncode value
     else ContentLine.sanitize value)

/-- A content line of a group, name, parameters and written value. -/
def contentLine (w : Writer) (group : Option String) (name : String) (params : Params) (value : String) :
    String :=
  let head := match group with
    | some g => if g.isEmpty then name else g ++ "." ++ name
    | none => name
  let parts := params.multimap.flatMap fun (n, vs) =>
    let encoded := vs.map w.paramValue
    if w.version == .v21 then encoded.map (n ++ "=" ++ ·) else [n ++ "=" ++ ",".intercalate encoded]
  ";".intercalate (head :: parts) ++ ":" ++ value

end Writer

/-- The `LABEL` property that carries an address's label before 4.0. -/
def labelOf (p : Property) : Option Property :=
  if p.name != "ADR" then none
  else match p.value with
    | .address a => a.label.map fun l =>
      Property.make "LABEL" (.label (some l))
        (Params.ofList ((p.params.types.filter (Text.lower · != "pref")).map ("TYPE", ·))) p.group
    | _ => none

/-- Trailing carriage returns and line feeds dropped. -/
def dropLineEnds (s : String) : String :=
  String.ofList (s.toList.reverse.dropWhile (fun c => c == '\r' || c == '\n')).reverse

def liftExcept {α : Type} : Except Error α → EmitM α
  | .ok a => pure a
  | .error e => throw e

/-- A writer of the cards embedded in a property: from the depth and whether
lines are folded. -/
abbrev CardWriter := Int → Bool → Card → EmitM String

/-- Writes an embedded card for a property, with `inner` for the card itself. -/
def writeEmbedded (w : Writer) (inner : CardWriter) (depth : Int) (fold : Bool) (prop : Property)
    (params : Params) (child : Card) : EmitM String := do
  let limit := w.settings.maxEmbeddedDepth
  if depth + 1 > limit then
    note ("Embedded vCard nested deeper than " ++ toString limit ++ " levels; dropping it.") (some prop.name)
    return ""
  if w.version == .v21 then
    return w.line fold (w.contentLine prop.group prop.name params "") ++
      (← inner (depth + 1) fold child)
  let before := (← get).length
  let text ← inner (depth + 1) false child
  modify fun ws => ws.take before ++ (ws.drop before).map (Warning.prefixed · (prop.name ++ ": "))
  return w.line fold (w.contentLine prop.group prop.name params (Text.escape (dropLineEnds text)))

/-- Writes a property of a card; `self` is its position in the card, and
`inner` writes the cards it embeds. -/
def writeProperty (w : Writer) (inner : CardWriter) (depth : Int) (fold : Bool) (card : Card)
    (self : Option Nat) (prop : Property) : EmitM String := do
  let v := w.version
  let name := prop.name
  let codec := w.index.codecForProperty prop
  if !codec.supportedVersions.contains v then
    note ("Property is not part of vCard " ++ v.text ++ "; writing it anyway.") (some name)
  let (result, messages) := (codec.writeText prop.value v).run'
  for m in messages do note m (some name)
  match ← liftExcept result with
  | .skip why =>
    note ("Property has requested that it be skipped: " ++ why) (some name)
    return ""
  | .embedded child =>
    let params := (codec.prepareParams prop self v (some card)).setValueType (codec.valueParameter prop.value v)
    writeEmbedded w inner depth fold prop params child
  | .written value =>
    let params := (codec.prepareParams prop self v (some card)).setValueType (codec.valueParameter prop.value v)
    if v == .v21 && (value.contains '\n' || value.contains '\r') then
      let params := params.set "ENCODING" (some "QUOTED-PRINTABLE")
      let charset := match params.get? "CHARSET" with
        | some c => if c.isEmpty then "UTF-8" else c
        | none => "UTF-8"
      let params := params.set "CHARSET" (some charset)
      let encoded ← liftExcept (Encoding.quotedPrintableText value charset)
      return w.line false (w.contentLine prop.group name params encoded)
    return w.line fold (w.contentLine prop.group name params value)

/-- Writes a card at a nesting depth; `fuel` bounds the nesting. -/
def writeCard (w : Writer) : Nat → CardWriter
  | 0, _, _, _ => pure ""
  | fuel + 1, depth, fold, card => do
    let v := w.version
    let inner := writeCard w fuel
    let mut out := w.line fold "BEGIN:VCARD" ++ w.line fold ("VERSION:" ++ v.text)
    for (i, p) in (List.range card.properties.length).zip card.properties do
      out := out ++ (← writeProperty w inner depth fold card (some i) p)
      if v != .v40 then
        if let some l := labelOf p then
          out := out ++ (← writeProperty w inner depth fold card none l)
    for orphan in card.orphanedLabels do
      out := out ++ (← writeProperty w inner depth fold card none orphan)
    if w.settings.addProdid && v != .v21 && (card.first? "PRODID").isNone then
      out := out ++ (← writeProperty w inner depth fold card none (Property.make "PRODID" (.text (some productId))))
    return out ++ w.line fold "END:VCARD"

/-- How deeply cards are embedded in a card. -/
def nesting : Card → Nat
  | ⟨_, props, _⟩ => nestingOf props + 1
where
  nestingOf : List Property → Nat
    | [] => 0
    | ⟨_, _, _, .agent (.card c)⟩ :: rest => max (nesting c) (nestingOf rest)
    | _ :: rest => nestingOf rest

/-- Writes cards one after the other; gives the text and the warnings. -/
def write (w : Writer) (cards : List Card) : Except Error (String × List Warning) :=
  let run : EmitM String := cards.foldlM (fun out c => do
    return out ++ (← writeCard w (nesting c + 1) 0 true c)) ""
  match (ExceptT.run run).run [] with
  | (.ok text, ws) => .ok (text, ws)
  | (.error e, _) => .error e

end Vcf

end VCard
