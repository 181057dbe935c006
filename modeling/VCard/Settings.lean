import VCard.Error
import VCard.Json.Value
import VCard.Number.Binary
import VCard.Number.Read
import VCard.Version
/-! Settings of reading and writing, and how they are read from loosely typed data.

Each setting has a default. Data such as a parsed configuration file gives some
of them as loose values, which are coerced one setting at a time, in the order
the settings are declared (`Settings.ofFields`); names that are not settings are
ignored, and the first value that cannot be coerced fails the whole.

* The default version is named by the text of the value.
* A flag must be a boolean.
* A count is the integer of the value (text of an integer, a number cut toward
  zero, or a flag as 0 or 1) and must be at least 1.
* The region is the text of the value. -/
namespace VCard

/-- Settings of reading and writing. -/
structure Settings where
  /-- The version cards are written in when none is asked for. -/
  defaultVersion : Version := .v40
  /-- How deeply embedded cards are followed. -/
  maxEmbeddedDepth : Int := 10
  /-- Where vCard lines are folded; 0 keeps them whole. -/
  lineLength : Int := 75
  addProdid : Bool := false
  prettyJson : Bool := false
  xmlIndent : Bool := true
  /-- Whether parameter values are written with caret escapes (RFC 6868). -/
  caretEncoding : Bool := true
  /-- The region telephone numbers are read in when the card names none. -/
  defaultRegion : String := "GB"
  deriving Repr

namespace Settings

open Json in
/-- The integer of a loose value. -/
def intOf : Json.Value → Except Error Int
  | .int n => .ok n
  | .bool b => .ok (if b then 1 else 0)
  | .float x =>
    match Number.Binary.ofFloat x with
    | .nan => .error .nanInteger
    | .infinite _ => .error .infiniteInteger
    | b => .ok ((Number.Binary.truncate b).getD 0)
  | .str s =>
    match Number.parseInt? s with
    | some n => .ok n
    | none => .error (.notIntegerText s)
  | .null => .error (.notIntegerType "NoneType")
  | .arr _ => .error (.notIntegerType "list")
  | .obj _ => .error (.notIntegerType "dict")

/-- A count setting: an integer of at least 1. -/
def countOf (name : String) (v : Json.Value) : Except Error Int := do
  let n ← intOf v
  if n < 1 then throw (.notPositive name) else pure n

/-- A flag setting: a boolean. -/
def flagOf (name : String) : Json.Value → Except Error Bool
  | .bool b => .ok b
  | _ => .error (.notBoolean name)

/-- The version a loose value names. -/
def versionOf (v : Json.Value) : Except Error Version :=
  match Version.find? v.plain with
  | some ver => .ok ver
  | none => .error (.unknownVersion v.literal)

/-- Settings from named loose values, coerced in declaration order. -/
def ofFields (data : List (String × Json.Value)) : Except Error Settings := do
  let get? (n : String) : Option Json.Value := (data.reverse.find? (·.1 == n)).map (·.2)
  let s : Settings := {}
  let s ← match get? "default_version" with
    | some v => do pure { s with defaultVersion := ← versionOf v }
    | none => pure s
  let s ← match get? "max_embedded_depth" with
    | some v => do pure { s with maxEmbeddedDepth := ← countOf "max_embedded_depth" v }
    | none => pure s
  let s ← match get? "line_length" with
    | some v => do pure { s with lineLength := ← countOf "line_length" v }
    | none => pure s
  let s ← match get? "add_prodid" with
    | some v => do pure { s with addProdid := ← flagOf "add_prodid" v }
    | none => pure s
  let s ← match get? "pretty_json" with
    | some v => do pure { s with prettyJson := ← flagOf "pretty_json" v }
    | none => pure s
  let s ← match get? "xml_indent" with
    | some v => do pure { s with xmlIndent := ← flagOf "xml_indent" v }
    | none => pure s
  let s ← match get? "caret_encoding" with
    | some v => do pure { s with caretEncoding := ← flagOf "caret_encoding" v }
    | none => pure s
  match get? "default_region" with
    | some v => pure { s with defaultRegion := v.plain }
    | none => pure s

/-- The text of the default configuration file. -/
def defaultConfigText : String :=
  "# vcard-scribe configuration (TOML)\ndefault_version = \"4.0\"\nmax_embedded_depth = 10\n" ++
  "line_length = 75\nadd_prodid = false\npretty_json = false\nxml_indent = true\n" ++
  "caret_encoding = true\ndefault_region = \"GB\"\n"

end Settings

end VCard
