import VCard.Codec.Text
import VCard.JCard.Values
/-! Property values in jCard (RFC 7095).

In jCard a property's value is the list of JSON values after its data type:
one string for a plain value, one array of components for a structured value
(a component of one item is that item, of several an array), or several
strings for a list such as `CATEGORIES`.

`Codec.writeJson` gives that list and `Codec.readJson` reads it. A shape
without its own layout writes the unescaped vCard text as one string and reads
the values by turning them into vCard text first (`JCard.Values.toText`). -/
namespace VCard

namespace Codec

open JCard in
/-- The jCard values of a value. -/
def writeJson (c : Codec) (value : Value) (v : Version) : WriteM Values :=
  let str (s : String) : Json.Value := .str s
  let opt (x : Option String) : Text.Component := (x.map .single).getD .absent
  match value with
  | .text s => pure (.single (str (s.getD "")))
  | .telephone t =>
    match t with
    | .uri u => pure (.single (str u))
    | .text s => pure (.single (str s))
    | .empty => pure (.single (str ""))
  | .gender sex identity =>
    match identity with
    | none => pure (.single (str (sex.getD "")))
    | some i => pure (.structured [opt sex, .single i])
  | .xml doc =>
    match doc with
    | some d => if d.isEmpty then WriteM.skip "XML property has no document" else pure (.single (str d))
    | none => WriteM.skip "XML property has no document"
  | .raw s _ => pure (.single (str s))
  | .address a => pure (.structured (a.components.map .many))
  | .name n => pure (.structured [opt n.family, opt n.given, .many n.additional, .many n.prefixes, .many n.suffixes])
  | .textList values delimiter =>
    let delimiter := match c.shape with
      | .textList d _ => d
      | _ => delimiter
    if delimiter == ";" then
      match values with
      | [one] => pure (.single (str one))
      | _ => pure (.structured (values.map .single))
    else pure (.texts values)
  | .clientPidMap pid uri =>
    if pid.isNone && uri.isNone then WriteM.skip "CLIENTPIDMAP has neither a PID nor a URI"
    else pure (.structured [.single ((pid.map toString).getD ""), opt uri])
  | .binary b => do
    let text ← c.writeText value v
    pure (.single (str (b.text?.getD text)))
  | .dateOrTime d =>
    match d with
    | .date s => do return .single (str (← WriteM.ofExcept (s.format true false)))
    | .partialDate p => pure (.single (str (p.toIso true)))
    | .text s => pure (.single (str s))
    | .empty => WriteM.skip (c.name ++ " has no date or text")
  | .timestamp s =>
    match s with
    | none => WriteM.skip "REV has no timestamp"
    | some s => do return .single (str (← WriteM.ofExcept (s.format true true)))
  | .timezone offset text =>
    match text, offset with
    | some t, _ => pure (.single (str t))
    | none, some o => pure (.single (str (o.format true)))
    | none, none => WriteM.skip "TZ has neither an offset nor a text value"
  | .agent _ => WriteM.skip "AGENT cannot be written to jCard"
  | _ => do return .single (str (Text.unescape (← c.writeText value v)))

open JCard in
/-- Reads the jCard values of a property declared with a data type. -/
def readJson (c : Codec) (values : Values) (dt : Option DataType) : ReadM Value :=
  match c.shape with
  | .raw =>
    let text := match values.items with
      | [.arr _] => values.toText
      | [_] => values.asSingle
      | _ => values.toText
    pure (.raw text dt)
  | .address => do return .address (Address.ofComponents values.asStructured (← takeLabel))
  | .textList d _ => pure (.textList values.asMulti d)
  | .clientPidMap =>
    match values.asStructured with
    | p :: u :: _ => readClientPidMap p u
    | _ => ReadM.cannotParse "CLIENTPIDMAP needs a PID and a URI"
  | .agent => ReadM.cannotParse "AGENT is not part of jCard"
  | _ => c.readText values.toText dt

end Codec

end VCard
