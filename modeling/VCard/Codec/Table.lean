import VCard.Codec.Basic
/-! The table of codecs: which shape each property name has.

`defaultCodecs` lists the built-in codecs. A `CodecIndex` maps property names
(in capitals) and hCard class names (in lower case) to codecs; registering a
codec for a name replaces the previous one under both keys. A name with no
codec is read and written as raw text (`CodecIndex.codecFor`), and so is every
property whose value is already raw (`CodecIndex.codecForProperty`). -/
namespace VCard

namespace Codec

def text (name : String) (dt : DataType := .text) (pref : Bool := false) (hcardClass : Option String := none) :
    Codec :=
  ⟨Text.upper name, .text dt hcardClass, pref⟩

def uri (name : String) (pref : Bool := false) (textBefore40 : Bool := false) : Codec :=
  ⟨Text.upper name, .uri textBefore40, pref⟩

/-- Expertise levels. -/
def expertiseLevels : List String := ["beginner", "average", "expert"]

/-- Interest levels, for hobbies and interests. -/
def interestLevels : List String := ["high", "medium", "low"]

end Codec

/-- The built-in codecs, in registration order. -/
def defaultCodecs : List Codec :=
  [ Codec.text "FN", Codec.text "NOTE", Codec.text "TITLE", Codec.text "ROLE", Codec.text "PRODID",
    Codec.text "MAILER", Codec.text "SORT-STRING", Codec.text "CLASS", Codec.text "NAME",
    Codec.text "PROFILE", Codec.text "KIND", Codec.text "LANG" .languageTag,
    ⟨"EMAIL", .email, true⟩,
    Codec.uri "UID" false true, Codec.uri "URL", Codec.uri "SOURCE", Codec.uri "IMPP" true,
    Codec.uri "MEMBER" true, Codec.uri "FBURL", Codec.uri "CALURI", Codec.uri "CALADRURI",
    Codec.uri "ORG-DIRECTORY",
    ⟨"EXPERTISE", .leveled Codec.expertiseLevels, false⟩,
    ⟨"HOBBY", .leveled Codec.interestLevels, false⟩,
    ⟨"INTEREST", .leveled Codec.interestLevels, false⟩,
    ⟨"TEL", .telephone, true⟩, ⟨"RELATED", .related, true⟩, ⟨"GENDER", .gender, false⟩,
    ⟨"XML", .xml, false⟩,
    ⟨"ADR", .address, true⟩, ⟨"LABEL", .label, false⟩, ⟨"N", .structuredName, false⟩,
    ⟨"ORG", .textList ";" none, false⟩, ⟨"CATEGORIES", .textList "," (some "category"), false⟩,
    ⟨"NICKNAME", .textList "," none, false⟩, ⟨"GEO", .geo, false⟩,
    ⟨"CLIENTPIDMAP", .clientPidMap, false⟩,
    ⟨"PHOTO", .binary false, false⟩, ⟨"LOGO", .binary false, false⟩, ⟨"SOUND", .binary false, false⟩,
    ⟨"KEY", .binary true, false⟩,
    ⟨"BDAY", .dateOrTime, false⟩, ⟨"ANNIVERSARY", .dateOrTime, false⟩, ⟨"DEATHDATE", .dateOrTime, false⟩,
    ⟨"REV", .timestamp, false⟩, ⟨"TZ", .timezone, false⟩, ⟨"BIRTHPLACE", .place, false⟩,
    ⟨"DEATHPLACE", .place, false⟩,
    ⟨"AGENT", .agent, false⟩ ]

/-- Sets a key of an association list, in place when present. -/
def assocSet {α : Type} (xs : List (String × α)) (k : String) (v : α) : List (String × α) :=
  if xs.any (·.1 == k) then xs.map fun e => if e.1 == k then (k, v) else e else xs ++ [(k, v)]

def assocErase {α : Type} (xs : List (String × α)) (k : String) : List (String × α) :=
  xs.filter (·.1 != k)

def assocFind? {α : Type} (xs : List (String × α)) (k : String) : Option α :=
  (xs.find? (·.1 == k)).map (·.2)

/-- Codecs by property name and by hCard class name. -/
structure CodecIndex where
  byName : List (String × Codec) := []
  byHcard : List (String × Codec) := []

namespace CodecIndex

/-- Registers a codec, replacing the one of the same property name under both keys. -/
def register (ix : CodecIndex) (c : Codec) : CodecIndex :=
  let byHcard := match assocFind? ix.byName c.name with
    | some prev => assocErase ix.byHcard prev.hcardClassName
    | none => ix.byHcard
  ⟨assocSet ix.byName c.name c, assocSet byHcard c.hcardClassName c⟩

/-- Removes the codec of a name; gives it, if there was one. -/
def unregister (ix : CodecIndex) (name : String) : Option Codec × CodecIndex :=
  let key := Text.upper name
  match assocFind? ix.byName key with
  | none => (none, ix)
  | some c => (some c, ⟨assocErase ix.byName key, assocErase ix.byHcard c.hcardClassName⟩)

def has (ix : CodecIndex) (name : String) : Bool := (assocFind? ix.byName (Text.upper name)).isSome

def size (ix : CodecIndex) : Nat := ix.byName.length

/-- The codec of a name; raw for a name without one. -/
def codecFor (ix : CodecIndex) (name : String) : Codec :=
  (assocFind? ix.byName (Text.upper name)).getD (Codec.raw name)

/-- The codec of a property: raw for a raw value. -/
def codecForProperty (ix : CodecIndex) (p : Property) : Codec :=
  match p.value with
  | .raw .. => Codec.raw p.name
  | _ => ix.codecFor p.name

def codecForHcard? (ix : CodecIndex) (className : String) : Option Codec :=
  assocFind? ix.byHcard (Text.lower className)

/-- The codec of an xCard element; none outside the xCard namespace. -/
def codecForXml? (ix : CodecIndex) (ns : Option String) (localName : String) : Option Codec :=
  if ns == some Version.xcardNamespace then some (ix.codecFor localName) else none

end CodecIndex

/-- The index of the built-in codecs. -/
def defaultIndex : CodecIndex := defaultCodecs.foldl CodecIndex.register {}

theorem CodecIndex.codecFor_of_not_has (ix : CodecIndex) (name : String) (h : ix.has name = false) :
    ix.codecFor name = Codec.raw name := by
  simp only [has] at h
  unfold codecFor
  cases hf : assocFind? ix.byName (Text.upper name) with
  | none => rfl
  | some c => simp [hf] at h

end VCard
