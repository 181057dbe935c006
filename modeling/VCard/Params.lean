import VCard.DataType
import VCard.Geo
import VCard.Number.Read
import VCard.Text.Literal
/-! Property parameters: an ordered multimap (RFC 6350 §5).

Parameters are `(name, value)` pairs in the order they were added. Names are
compared without case and stored in capitals; a name may carry several values.
Every operation is a list operation on the pairs, so its effect on the values of
one name is plain: `put` appends, `replace` drops every value of the name and
appends the new one, `removeAll` drops them, and no operation on one name
touches the values of another (`getAll_put_other`).

On top of the multimap sit typed views: `PREF` and `INDEX` as integers, `TYPE`
values compared without case, `PID` values as local id and client map reference,
`GEO` as coordinates, `VALUE` as a data type, and the plain text accessors. The
check of a parameter set against a version (`Params.problems`) lists what the
version does not allow, in a fixed order. -/
namespace VCard

/-- A `PID` value: a local id and, optionally, a `CLIENTPIDMAP` reference. -/
structure Pid where
  localId : Nat
  ref : Option Nat := none
  deriving DecidableEq, Repr

namespace Pid

def text (p : Pid) : String :=
  match p.ref with
  | none => toString p.localId
  | some r => toString p.localId ++ "." ++ toString r

/-- Reads `n` or `n.m` between blanks. -/
def parse? (s : String) : Option Pid :=
  let cs := Text.trimChars s.toList
  let ds := cs.takeWhile Text.isDecimal
  if ds.isEmpty then none
  else
    let localId := Text.digitsValue (ds.filterMap Text.digitValue?)
    match cs.drop ds.length with
    | [] => some ⟨localId, none⟩
    | '.' :: more =>
      if !more.isEmpty && more.all Text.isDecimal then
        some ⟨localId, some (Text.digitsValue (more.filterMap Text.digitValue?))⟩
      else none
    | _ => none

end Pid

/-- The levels a `LEVEL` parameter may name. -/
def knownLevels : List String := ["beginner", "average", "expert", "high", "medium", "low"]

/-- Property parameters, in order. -/
structure Params where
  entries : List (String × String) := []
  deriving DecidableEq, Repr, Inhabited

namespace Params

/-- The stored spelling of a parameter name. -/
def key (name : String) : String := Text.upper name

def ofList (pairs : List (String × String)) : Params := ⟨pairs.map fun (n, v) => (key n, v)⟩

/-- The first value of a name. -/
def get? (p : Params) (name : String) : Option String :=
  (p.entries.find? (·.1 == key name)).map (·.2)

/-- Every value of a name, in order. -/
def getAll (p : Params) (name : String) : List String :=
  (p.entries.filter (·.1 == key name)).map (·.2)

def put (p : Params) (name value : String) : Params := ⟨p.entries ++ [(key name, value)]⟩

/-- Drops every value of a name; returns the values dropped. -/
def removeAll (p : Params) (name : String) : List String × Params :=
  (p.getAll name, ⟨p.entries.filter (·.1 != key name)⟩)

/-- Drops every value of a name and stores the new value, if any. -/
def replace (p : Params) (name : String) (value : Option String) : List String × Params :=
  let (removed, p) := p.removeAll name
  (removed, match value with
    | some v => p.put name v
    | none => p)

/-- Sets a name to one value, or to none. -/
def set (p : Params) (name : String) (value : Option String) : Params := (p.replace name value).2

/-- Drops every value of a name. -/
def erase (p : Params) (name : String) : Params := (p.removeAll name).2

/-- Drops the first pair of a name and value; tells whether there was one. -/
def remove (p : Params) (name value : String) : Bool × Params :=
  match p.entries.findIdx? (fun e => e.1 == key name && e.2 == value) with
  | some i => (true, ⟨p.entries.eraseIdx i⟩)
  | none => (false, p)

/-- The names, each once, in order of first appearance. -/
def names (p : Params) : List String :=
  p.entries.foldl (fun acc e => if acc.contains e.1 then acc else acc ++ [e.1]) []

/-- The names with all their values, in order of first appearance. -/
def multimap (p : Params) : List (String × List String) := p.names.map fun n => (n, p.getAll n)

def size (p : Params) : Nat := p.entries.length

def contains (p : Params) (name : String) : Bool := p.entries.any (·.1 == key name)

/-- Equality of the values of every name, whatever the order between names. -/
def sameAs (p q : Params) : Bool :=
  p.names.length == q.names.length && p.names.all (fun n => q.contains n && p.getAll n == q.getAll n)

def isEmpty (p : Params) : Bool := p.entries.isEmpty

/-- A parameter set of the same pairs. Parameter sets are values: editing the copy
gives a new set and leaves this one as it is. -/
def copy (p : Params) : Params := ⟨p.entries⟩

/-! ### Typed views -/

/-- An integer parameter, `none` when absent or not an integer. -/
def getInt? (p : Params) (name : String) : Option Int :=
  (p.get? name).bind fun raw => Number.parseInt? raw

def setInt (p : Params) (name : String) (v : Option Int) : Params := p.set name (v.map toString)

def pref? (p : Params) : Option Int := p.getInt? "PREF"

def index? (p : Params) : Option Int := p.getInt? "INDEX"

def types (p : Params) : List String := p.getAll "TYPE"

def addType (p : Params) (t : String) : Params := p.put "TYPE" t

/-- Drops the first `TYPE` value equal to `t` without regard to case. -/
def removeType (p : Params) (t : String) : Bool × Params :=
  match p.types.find? (fun x => Text.lower x == Text.lower t) with
  | some x => p.remove "TYPE" x
  | none => (false, p)

def hasType (p : Params) (t : String) : Bool := p.types.any (fun x => Text.lower x == Text.lower t)

/-- The `PID` values that read as ids. -/
def pids (p : Params) : List Pid := (p.getAll "PID").filterMap Pid.parse?

def addPid (p : Params) (pid : Pid) : Params := p.put "PID" pid.text

/-- The coordinates of a `GEO` parameter: an optional `geo:` and two numbers at
the front of the value. -/
def geoOf? (raw : String) : Option (Float × Float) := do
  let cs := raw.toList.dropWhile Text.isBlank
  let cs := if Text.lowerChars (cs.take 4) == "geo:".toList then cs.drop 4 else cs
  let cs := cs.dropWhile Text.isBlank
  let (lat, r) ← decimalPrefix? cs
  let r := r.dropWhile Text.isBlank
  let r ← match r with
    | ',' :: r => some r
    | _ => none
  let (lng, _) ← decimalPrefix? (r.dropWhile Text.isBlank)
  let num (x : List Char) : Float := (Number.parseFloat? (String.ofList x)).getD 0
  pure (num lat, num lng)

def geo? (p : Params) : Option (Float × Float) := (p.get? "GEO").bind geoOf?

def setGeo (p : Params) : Option (Float × Float) → Params
  | none => p.erase "GEO"
  | some (lat, lng) => p.set "GEO" (some (GeoUri.text ⟨lat, lng, none⟩))

/-- The data type that `VALUE` names, created when it is not known. -/
def valueType? (p : Params) : Option DataType :=
  (p.get? "VALUE").bind fun raw => if raw.isEmpty then none else some (DataType.ofName raw)

def setValueType (p : Params) (dt : Option DataType) : Params := p.set "VALUE" (dt.map (·.name))

/-! ### Checking against a version -/

/-- What a version does not allow in a parameter set, in a fixed order: unknown
names for the version, then `PREF`, `PID`, `GEO`, `INDEX`, `LEVEL`, `ENCODING` and
`VALUE` values. Only known data types are checked, as extension types belong to
no version. -/
def problems (p : Params) (v : Version) : List String :=
  let unsupported := p.names.filterMap fun n =>
    match parameterVersions? n with
    | some vs => if vs.contains v then none
      else some (n ++ " parameter is not supported by vCard " ++ v.text ++ ".")
    | none => none
  let pref := match p.get? "PREF" with
    | none => []
    | some raw =>
      match p.pref? with
      | none => ["PREF parameter value must be an integer: " ++ Text.quote raw]
      | some n => if 1 ≤ n && n ≤ 100 then []
        else ["PREF parameter value must be between 1 and 100: " ++ toString n]
  let pid := (p.getAll "PID").filterMap fun raw =>
    if (Pid.parse? raw).isNone then some ("PID parameter value is malformed: " ++ Text.quote raw)
    else none
  let geo := match p.get? "GEO" with
    | some raw => if (geoOf? raw).isNone then ["GEO parameter value is malformed: " ++ Text.quote raw] else []
    | none => []
  let index := match p.get? "INDEX" with
    | some raw => if p.index?.isNone then ["INDEX parameter value must be an integer: " ++ Text.quote raw]
      else []
    | none => []
  let level := match p.get? "LEVEL" with
    | some l => if knownLevels.contains (Text.lower l) then []
      else ["LEVEL parameter value is not recognised: " ++ Text.quote l]
    | none => []
  let encoding := match p.get? "ENCODING" with
    | some e => if (supportedEncodings v).contains (Text.lower e) then []
      else ["ENCODING=" ++ e ++ " is not valid in vCard " ++ v.text ++ "."]
    | none => []
  let value := match p.get? "VALUE" with
    | some raw =>
      match DataType.findKnown? raw with
      | some dt => if !dt.versions.isEmpty && !dt.isSupportedBy v then
          ["VALUE=" ++ dt.name ++ " is not supported by vCard " ++ v.text ++ "."]
        else []
      | none => []
    | none => []
  unsupported ++ pref ++ pid ++ geo ++ index ++ level ++ encoding ++ value

theorem getAll_put_other (p : Params) (n m v : String) (h : key n ≠ key m) :
    (p.put n v).getAll m = p.getAll m := by
  simp [getAll, put, List.filter_append]
  intro h'
  exact absurd h' h

end Params

end VCard
