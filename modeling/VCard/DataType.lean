import VCard.Version
/-! Value data types: the `VALUE` parameter.

A data type names how a property value is written: `text`, `uri`,
`date-and-or-time` and so on, each defined by some versions. A name that is not
one of these is an *extension* type, defined by no version; its name is kept in
lower case without surrounding blanks.

Looking a name up and creating it are different acts. `DataType.ofName` always
succeeds, making an extension type of an unknown name; `Registry.find?` only
succeeds for known names and for extension names that were created before. The
`Registry` is the set of extension names created so far, which readers carry
along and hand back: once a file has used `VALUE=x-foo`, `x-foo` is a data type
for what is read later. -/
namespace VCard

/-- A data type of property values. -/
inductive DataType where
  | url
  | contentId
  | binary
  | uri
  | text
  | date
  | time
  | dateTime
  | dateAndOrTime
  | timestamp
  | boolean
  | integer
  | float
  | utcOffset
  | languageTag
  /-- A type that no version defines, by its lower-case name. -/
  | extension (name : String)
  deriving DecidableEq, Repr, Inhabited

namespace DataType

/-- The known data types, in the order the formats list them. -/
def known : List DataType :=
  [.url, .contentId, .binary, .uri, .text, .date, .time, .dateTime, .dateAndOrTime,
   .timestamp, .boolean, .integer, .float, .utcOffset, .languageTag]

/-- The name a data type is written by. -/
def name : DataType → String
  | .url => "url"
  | .contentId => "content-id"
  | .binary => "binary"
  | .uri => "uri"
  | .text => "text"
  | .date => "date"
  | .time => "time"
  | .dateTime => "date-time"
  | .dateAndOrTime => "date-and-or-time"
  | .timestamp => "timestamp"
  | .boolean => "boolean"
  | .integer => "integer"
  | .float => "float"
  | .utcOffset => "utc-offset"
  | .languageTag => "language-tag"
  | .extension n => n

/-- The versions that define a data type. -/
def versions : DataType → List Version
  | .url | .contentId => [.v21]
  | .binary => [.v30]
  | .uri | .date | .time | .dateTime | .boolean | .integer | .float | .utcOffset => [.v30, .v40]
  | .text => Version.all
  | .dateAndOrTime | .timestamp | .languageTag => [.v40]
  | .extension _ => []

def isSupportedBy (dt : DataType) (v : Version) : Bool := dt.versions.contains v

/-- The key a name is looked up by: lower case, blanks around it removed. -/
def key (s : String) : String := Text.lower (Text.trim s)

/-- The known data type of a name. -/
def findKnown? (s : String) : Option DataType := known.find? (·.name == key s)

/-- The data type of a name, an extension type when it is not known. -/
def ofName (s : String) : DataType := (findKnown? s).getD (.extension (key s))

def isExtension : DataType → Bool
  | .extension _ => true
  | _ => false

end DataType

/-- The extension data types created so far. -/
structure DataType.Registry where
  extensions : List String := []
  deriving Inhabited

namespace DataType.Registry

/-- The data type of a name if it is known or was created before. -/
def find? (r : Registry) (s : String) : Option DataType :=
  match findKnown? s with
  | some dt => some dt
  | none => if r.extensions.contains (key s) then some (.extension (key s)) else none

/-- Records that a data type has been created. -/
def note (r : Registry) (dt : DataType) : Registry :=
  match dt with
  | .extension n => if r.extensions.contains n then r else { extensions := r.extensions ++ [n] }
  | _ => r

/-- The data type of a name, created when needed, and the registry after it. -/
def get (r : Registry) (s : String) : DataType × Registry :=
  let dt := ofName s
  (dt, r.note dt)

theorem note_known (r : Registry) (dt : DataType) (h : dt.isExtension = false) : r.note dt = r := by
  cases dt <;> simp_all [note, isExtension]

end DataType.Registry

end VCard
