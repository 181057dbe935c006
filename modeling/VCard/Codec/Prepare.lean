import VCard.Codec.Basic
import VCard.MediaType
/-! The parameters a property is written with.

What a property stores in its parameters is not always what a version writes:

* Preference. Version 4.0 ranks properties of one name with `PREF=1` to `100`;
  earlier versions only mark the preferred one with `TYPE=pref`. Writing 4.0
  turns a `TYPE=pref` into `PREF=1`; writing an earlier version drops `PREF` and
  marks the property of lowest `PREF` among its card's properties of the same
  name (the first one on a tie) with `TYPE=pref`.
* An address's label is a `LABEL` parameter in 4.0 only; earlier versions write
  it as a property of its own.
* Binary content names its media type with `MEDIATYPE` in 4.0 (for a URL) and
  with a `TYPE` word before, and announces base64 with `ENCODING` before 4.0.

All of this works on a copy: the stored parameters never change. -/
namespace VCard

namespace Codec

/-- Positions and `PREF` values of the properties of a name that have one. -/
def ranked (card : Card) (name : String) : List (Nat × Int) :=
  ((List.range card.properties.length).zip card.properties).filterMap fun (i, p) =>
    if p.name == Text.upper name then p.params.pref?.map (i, ·) else none

/-- The position of the first property of lowest `PREF`. -/
def preferred? (ranks : List (Nat × Int)) : Option Nat :=
  (ranks.foldl (fun (best : Option (Nat × Int)) (r : Nat × Int) =>
    match best with
    | some b => if r.2 < b.2 then some r else some b
    | none => some r) none).map (·.1)

/-- Drops every `TYPE=pref`, in any case. -/
def dropPrefTypes (p : Params) : Params :=
  ⟨p.entries.filter fun e => !(e.1 == Params.key "TYPE" && Text.lower e.2 == "pref")⟩

/-- Translates preference for a version. `self` is the property's position in the
card, when it belongs to it. -/
def preferenceFor (name : String) (self : Option Nat) (p : Params) (v : Version) (card : Option Card) :
    Params :=
  if v == .v40 then
    match p.types.find? (Text.lower · == "pref") with
    | some t => (p.remove "TYPE" t).2.setInt "PREF" (some 1)
    | none => p
  else
    let p := p.erase "PREF"
    match card with
    | none => p
    | some card =>
      match preferred? (ranked card name) with
      | none => p
      | some winner =>
        let p := dropPrefTypes p
        if self == some winner then p.addType "pref" else p

/-- The shape's own changes to the parameters of a value. -/
def prepareOwn (c : Codec) (value : Value) (p : Params) (v : Version) : Params :=
  match c.shape, value with
  | .address, .address a =>
    match a.label with
    | some l => if v == .v40 then p.set "LABEL" (some l) else p.erase "LABEL"
    | none => p.erase "LABEL"
  | .binary _, .binary b =>
    let p := (p.erase "ENCODING").erase "MEDIATYPE"
    let ct := b.contentType.bind fun t => if t.isEmpty then none else some t
    if v == .v40 then
      match ct with
      | some t => if b.data?.isNone then p.set "MEDIATYPE" (some t) else p
      | none => p
    else
      let p := p.erase "TYPE"
      let p := match ct with
        | some t => p.addType (MediaType.typeNameFor t)
        | none => p
      if b.data?.isSome then p.set "ENCODING" (some (if v == .v21 then "BASE64" else "b")) else p
  | _, _ => p

/-- The parameters to write a property with. -/
def prepareParams (c : Codec) (prop : Property) (self : Option Nat) (v : Version) (card : Option Card) :
    Params :=
  let p := if c.pref then preferenceFor prop.name self prop.params v card else prop.params
  c.prepareOwn prop.value p v

end Codec

end VCard
