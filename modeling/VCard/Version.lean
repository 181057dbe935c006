import VCard.Text.Blank
import VCard.Text.Case
/-! The three versions of the vCard format and what each defines.

vCard 2.1, 3.0 (RFC 2426) and 4.0 (RFC 6350) differ in which properties and
parameters they define and in how binary data is marked. A property that no
table names is allowed in every version. Only 4.0 has an XML form (xCard,
RFC 6351) and so an XML namespace.

A version is named by its number; `Version.find?` reads that name back
(`find?_text`), ignoring blanks around it. -/
namespace VCard

/-- A version of the vCard format. -/
inductive Version where
  | v21
  | v30
  | v40
  deriving DecidableEq, Repr, Inhabited

namespace Version

def all : List Version := [.v21, .v30, .v40]

/-- The version's number as written in `VERSION:` lines. -/
def text : Version → String
  | .v21 => "2.1"
  | .v30 => "3.0"
  | .v40 => "4.0"

instance : ToString Version := ⟨text⟩

/-- The version with a given number, blanks around it ignored. -/
def find? (s : String) : Option Version :=
  all.find? (·.text == Text.trim s)

/-- The namespace of xCard elements. -/
def xcardNamespace : String := "urn:ietf:params:xml:ns:vcard-4.0"

/-- The XML namespace of a version, which only 4.0 has. -/
def xmlNamespace? : Version → Option String
  | .v40 => some xcardNamespace
  | _ => none

/-- The position of a version in the order 2.1, 3.0, 4.0. -/
def rank : Version → Nat
  | .v21 => 0
  | .v30 => 1
  | .v40 => 2

/-- Versions in their order, without repeats. -/
def sorted (vs : List Version) : List Version := all.filter (vs.contains ·)

theorem find?_text (v : Version) : find? v.text = some v := by
  cases v <;> rfl

end Version

/-- The versions that define a property; every version for a property the table
does not name. -/
def propertyVersions (name : String) : List Version :=
  match Text.upper name with
  | "AGENT" | "LABEL" | "MAILER" => [.v21, .v30]
  | "SORT-STRING" | "CLASS" | "NAME" | "PROFILE" => [.v30]
  | "NICKNAME" | "CATEGORIES" | "PRODID" | "SOURCE" | "IMPP" => [.v30, .v40]
  | "CLIENTPIDMAP" | "KIND" | "GENDER" | "ANNIVERSARY" | "XML" | "MEMBER" | "RELATED"
  | "LANG" | "FBURL" | "CALURI" | "CALADRURI" | "ORG-DIRECTORY" | "BIRTHPLACE"
  | "DEATHPLACE" | "DEATHDATE" | "EXPERTISE" | "HOBBY" | "INTEREST" => [.v40]
  | _ => Version.all

/-- The versions that define a parameter, for the parameters that not every
version has; `none` for the others. -/
def parameterVersions? (name : String) : Option (List Version) :=
  match name with
  | "PID" | "PREF" | "ALTID" | "MEDIATYPE" | "GEO" | "CALSCALE" | "SORT-AS" | "TZ"
  | "LABEL" | "INDEX" | "LEVEL" => some [.v40]
  | "CHARSET" => some [.v21]
  | "ENCODING" => some [.v21, .v30]
  | _ => none

/-- The `ENCODING` values a version defines, in lower case. -/
def supportedEncodings : Version → List String
  | .v21 => ["7bit", "8bit", "base64", "quoted-printable"]
  | .v30 => ["b"]
  | .v40 => []

end VCard
