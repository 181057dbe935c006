import VCard.Charset.Registry
import VCard.Charset.SingleByte
import VCard.Charset.Asian
/-! Finding the codec of a character set name.

`Codec.lookup?` puts the name in canonical form, reads it through the alias
table (also with its dots as underscores), and takes the first of the aliased
and the canonical name that names a codec definition here; an empty name, a
name with a dot, and the names of definitions of another system name none. The
scheme of a definition is fixed by its name (`schemeOf?`). -/
namespace VCard.Charset

/-- The scheme a codec definition implements, if the name is one here. -/
def schemeOf? (module : String) : Option Scheme :=
  match module with
  | "utf_8" => some .utf8
  | "utf_8_sig" => some .utf8Signed
  | "utf_16" => some (.utf16 none)
  | "utf_16_le" => some (.utf16 (some .little))
  | "utf_16_be" => some (.utf16 (some .big))
  | "utf_32" => some (.utf32 none)
  | "utf_32_le" => some (.utf32 (some .little))
  | "utf_32_be" => some (.utf32 (some .big))
  | "utf_7" => some .utf7
  | "ascii" => some .ascii
  | "latin_1" => some .latin1
  | "charmap" => some .latin1
  | "unicode_escape" => some .unicodeEscape
  | "raw_unicode_escape" => some .rawUnicodeEscape
  | "punycode" => some .punycode
  | "idna" => some .idna
  | "undefined" => some .undefined
  | m =>
    if binaryModules.contains m then some .binary
    else match asianCodecs.find? (·.1 == m) with
      | some (_, d) => some (.doubleByte d)
      | none => (singleByteTables.find? (·.1 == m)).map fun (_, t) => .singleByte t

/-- The alias of a canonical name, if it is one. -/
def aliasOf? (name : String) : Option String := (aliases.find? (·.1 == name)).map (·.2)

/-- Whether a codec definition of this name can be loaded here. -/
def loadable (module : String) : Bool :=
  !module.isEmpty && !module.toList.contains '.' && codecModules.contains module && !foreignModules.contains module

/-- A name with its dots as underscores. -/
def dotsAsUnderscores (name : String) : String :=
  String.ofList (name.toList.map fun c => if c == '.' then '_' else c)

/-- The codec of a character set name, if there is one. -/
def Codec.lookup? (name : String) : Option Codec :=
  let canonical := canonicalName name
  let aliased := match aliasOf? canonical with
    | some a => some a
    | none => aliasOf? (dotsAsUnderscores canonical)
  let candidates := match aliased with
    | some a => [a, canonical]
    | none => [canonical]
  match candidates.find? loadable with
  | some m => (schemeOf? m).map fun s => ⟨m, s⟩
  | none => none

end VCard.Charset
