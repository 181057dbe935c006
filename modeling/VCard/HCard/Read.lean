import VCard.Codec.Html
import VCard.Vcf.Read
/-! Reading the hCards of an HTML page.

Every outermost element of class `vcard` is a card of version 3.0. Its
properties are the elements below it whose class names a property (`fn`,
`tel`, `adr`, …); an element may name several. The elements below an element of
class `vcard` belong to that card: an inner hCard is an agent's card when its
element names `agent` too, and nobody's otherwise.

A property's value is read by its codec from the element (`Codec.readHtml`);
a value that cannot be read is kept as the element's text, with a warning.
Labels are attached to addresses when the card is complete, as in vCard text.
When the page has a base URL, each outermost card records it as its `SOURCE`.

Reading never fails; warnings name the property they are about. -/
namespace VCard

namespace HCard

open Xml (Element)

/-- What stays the same while a page is read. -/
structure Reader where
  index : CodecIndex := defaultIndex
  base : Option String := none
  settings : Settings := {}

/-- Reading gathers warnings. -/
abbrev ReadM := StateM (List Warning)

def warn (message property : String) : ReadM Unit :=
  modify (· ++ [{ message, property := some property }])

/-- A card being read, with the labels set aside for its addresses. -/
structure Pending where
  card : Card := { version := .v30 }
  labels : List (Property × Nat) := []

/-- The message for a card embedded too deeply. -/
def tooDeep (limit : Int) : String :=
  "Embedded vCard nested deeper than " ++ toString limit ++ " levels; ignoring it."

mutual

/-- Reads the properties an element and its descendants name into a card. -/
def visit (r : Reader) (depth : Int) : Element → Pending → ReadM Pending
  | e@⟨_, _, _, children, _⟩, pending => do
    let names := classNames e
    let pending ← names.foldlM (fun (pending : Pending) className => do
      match r.index.codecForHcard? className with
      | none => pure pending
      | some codec =>
        let result := (Codec.readHtml codec r.base e).run' .v30 {} {}
        let name := codec.name
        let noteWarnings : ReadM Unit := result.warnings.forM (warn · name)
        match result.reading with
        | .value x =>
          noteWarnings
          let p := Property.make name x result.params
          match x with
          | .label _ =>
            pure { pending with labels := pending.labels ++ [(p, (pending.card.propertiesNamed "ADR").length)] }
          | _ => pure { pending with card := pending.card.add p }
        | .skip why =>
          warn ("Property has requested that it be skipped: " ++ why) name
          pure pending
        | .cannotParse why =>
          warn ("Property value could not be parsed and is kept as raw text: " ++ why) name
          pure { pending with card := pending.card.add (Property.make name (.raw (value e) none) result.params) }
        | .embedded _ =>
          noteWarnings
          if depth + 1 > r.settings.maxEmbeddedDepth then
            warn (tooDeep r.settings.maxEmbeddedDepth) name
            pure pending
          else
            let inner ← visitAll r (depth + 1) children {}
            let child := Vcf.assignLabels inner.card inner.labels
            pure { pending with card := pending.card.add (Property.make name (.agent (.card child)) result.params) })
      pending
    if names.contains "vcard" then pure pending else visitAll r depth children pending

/-- Reads the properties some elements and their descendants name into a card. -/
def visitAll (r : Reader) (depth : Int) : List Element → Pending → ReadM Pending
  | [], pending => pure pending
  | c :: rest, pending => do visitAll r depth rest (← visit r depth c pending)

end

/-- Reads the card of an outermost `vcard` element. -/
def readCard (r : Reader) (e : Element) : ReadM Card := do
  let start : Pending := match r.base with
    | some b => if b.isEmpty then {} else { card := ({ version := .v30 } : Card).add (Property.make "SOURCE" (.text (some b))) }
    | none => {}
  let pending ← visitAll r 0 e.children start
  pure (Vcf.assignLabels pending.card pending.labels)

/-- Reads every outermost hCard of a page, with the warnings. -/
def read (r : Reader) (html : String) : List Card × List Warning :=
  ((outermostCards (Html.parse html)).mapM (readCard r)).run []

end HCard

end VCard
