import VCard.Json.Value
import VCard.Text.Escape
/-! The values of a jCard property (RFC 7095 §3.3).

A jCard property is an array `[name, parameters, type, value...]`; this module
holds the values after the type. They are read in three ways: as one text (the
first value, going into nested arrays), as a list of texts (nested arrays are
flattened one level), and as the components of a structured value (one array
whose members are texts or arrays of texts). A scalar is read as text with null
empty and booleans in lower case.

Values are written as one text, as several, or as one structured array whose
components of one item collapse to that item. -/
namespace VCard.JCard

/-- The values of a jCard property, after its data type. -/
structure Values where
  items : List Json.Value
  deriving Inhabited

/-- The text of a scalar: null is empty, booleans are lower case, a string is
itself, and anything else is its literal. -/
def scalarText : Json.Value → String
  | .null => ""
  | .bool true => "true"
  | .bool false => "false"
  | .str s => s
  | v => v.literal

/-- The first scalar, going into the first member of nested arrays. -/
def firstScalar : Json.Value → Json.Value
  | .arr (x :: _) => firstScalar x
  | .arr [] => .null
  | v => v

namespace Values

def single (v : Json.Value) : Values := ⟨[v]⟩

def texts (items : List String) : Values := ⟨items.map .str⟩

/-- One structured array; a component of one item collapses to it. -/
def structured (cs : List Text.Component) : Values :=
  ⟨[.arr (cs.map fun
    | .absent => .str ""
    | .single s => .str s
    | .many [] => .str ""
    | .many [x] => .str x
    | .many xs => .arr (xs.map .str))]⟩

/-- The values read as one text. -/
def asSingle (v : Values) : String :=
  match v.items with
  | [] => ""
  | x :: _ => scalarText (firstScalar x)

/-- The values read as a list of texts, nested arrays flattened one level. -/
def asMulti (v : Values) : List String :=
  v.items.flatMap fun
    | .arr xs => xs.map scalarText
    | x => [scalarText x]

/-- The values read as the components of a structured value; empty texts are
dropped from each component. -/
def asStructured (v : Values) : List (List String) :=
  let parts := match v.items with
    | [.arr parts] => parts
    | items => items
  parts.map fun
    | .arr xs => (xs.map scalarText).filter (· != "")
    | x => let t := scalarText x; if t.isEmpty then [] else [t]

/-- Whether the values are one structured array. -/
def isStructured (v : Values) : Bool :=
  match v.items with
  | [.arr _] => true
  | _ => false

/-- The escaped text form of the values: a structured value, a list, or one
escaped text. -/
def toText (v : Values) : String :=
  if v.isStructured then
    Text.joinStructured (v.asStructured.map .many)
  else if v.items.length > 1 then Text.joinList v.asMulti
  else Text.escape v.asSingle

theorem asSingle_single_str (s : String) : (single (.str s)).asSingle = s := rfl

end Values

end VCard.JCard
