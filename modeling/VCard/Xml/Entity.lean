import VCard.Xml.Scan
import VCard.Encoding.Utf8
/-! General entities, the limit on their expansion, and attribute values.

A general entity stands for replacement text given in its declaration, for text
in another resource, or for data in a notation. References to entities are
expanded where they are used, recursively; an entity may not refer to itself,
directly or through others.

Expansion is limited: the reader counts the bytes (in UTF-8) it reads from the
document itself and those it reads from replacement text, and once it has read
8 MiB in all it stops with a fault as soon as the replacement text is more than
a hundred times the document text read so far.

An attribute value is *normalized* (`readValue`): each blank (space, tab, line
feed, carriage return, or a carriage return and line feed together) becomes a
space, references are replaced, and `<` is refused. Values of a type other than
`CDATA` also lose leading and trailing spaces, and runs of spaces become one.
Replacement text was normalized when its entity was declared and is read as
characters that are already normalized: a carriage return in it is a blank
like a tab. -/
namespace VCard.Xml

/-- What a general entity stands for. -/
inductive EntityValue where
  /-- Replacement text given in the declaration. -/
  | internal (text : List Char)
  /-- Text in another resource, which is never read. -/
  | external
  /-- Data in a notation, which text may not refer to. -/
  | unparsed

/-- The general entities of a document, in the order declared; the first
declaration of a name is the one that counts. -/
abbrev Entities := List (String × EntityValue)

/-- The entity of a name. -/
def entityOf? (es : Entities) (name : String) : Option EntityValue :=
  (es.find? (·.1 == name)).map (·.2)

/-- The bytes read so far: from the document itself, and from replacement text. -/
structure Budget where
  direct : Nat := 0
  indirect : Nat := 0

/-- Where bytes being read come from, for the budget: the document, replacement
text, or text already counted. -/
inductive Account where
  | direct
  | expansion
  | free

/-- The bytes read before the limit applies. -/
def activationBytes : Nat := 8388608

/-- The fault of too much expansion. -/
def amplificationFault : String := "limit on input amplification factor (from DTD and entities) breached"

/-- Whether a budget is within the limit. -/
def Budget.tolerated (b : Budget) : Bool :=
  let total := b.direct + b.indirect
  total < activationBytes || (b.direct != 0 && total ≤ 100 * b.direct)

/-- Counts the bytes of a token: the budget after it, or none once the limit is
passed. -/
def Budget.charge (b : Budget) (a : Account) (bytes : Nat) : Option Budget :=
  match a with
  | .free => some b
  | .direct => let b := { b with direct := b.direct + bytes }; if b.tolerated then some b else none
  | .expansion => let b := { b with indirect := b.indirect + bytes }; if b.tolerated then some b else none

/-- The bytes of the first `n` characters. -/
def bytesOf (cs : List Char) (n : Nat) : Nat :=
  (cs.take n).foldl (fun acc c => acc + Encoding.utf8Size c) 0

/-- What reading an attribute value needs: the entities, whether a reference to
an undeclared entity is a fault, whether the value's type is `CDATA`, and where
its bytes are counted. -/
structure ValueReader where
  entities : Entities
  checks : Bool
  cdata : Bool
  account : Account

/-- A fault while reading a value: its message and offset, none when it is
reported where the markup holding the value starts. -/
abbrev ValueFault := String × Option Nat

/-- Adds a space unless, outside `CDATA`, the value is empty so far or ends in
one. -/
def pushBlank (cdata : Bool) (acc : List Char) : List Char :=
  if !cdata && (acc.head?.map (· == ' ')).getD true then acc else ' ' :: acc

/-- Whether a character ends a run of plain characters in a value. -/
def endsValueRun (c : Char) : Bool :=
  c == '&' || c == '<' || c == ' ' || c == '\t' || c == '\n' || c == '\r'

/-- Reads value text into `acc` (reversed): the text of the document when `base`
is its offset, else replacement text; `opened` are the entities being expanded. -/
def readValue (r : ValueReader) : Nat → List String → Option Nat → List Char → List Char → Budget →
    Except ValueFault (List Char × Budget)
  | 0, _, _, _, acc, b => .ok (acc, b)
  | fuel + 1, opened, base, cs, acc, b =>
    let here := base
    let later (n : Nat) : Option Nat := base.map (· + n)
    let charge (n : Nat) (k : Budget → Except ValueFault (List Char × Budget)) :
        Except ValueFault (List Char × Budget) :=
      match b.charge r.account (bytesOf cs n) with
      | some b => k b
      | none => .error (amplificationFault, none)
    match cs with
    | [] => .ok (acc, b)
    | '&' :: rest =>
      match scanReference rest ((base.getD 0) + 1) with
      | .breaks p => .error ("not well-formed (invalid token)", base.map fun _ => p)
      | .incomplete => .error ("not well-formed (invalid token)", here)
      | .ends ref next =>
        let used := next - base.getD 0
        charge used fun b =>
          match ref with
          | .char n =>
            match referencedChar n with
            | none => .error ("reference to invalid character number", here)
            | some ch =>
              let acc := if !r.cdata && ch == ' ' then pushBlank false acc else ch :: acc
              readValue r fuel opened (later used) (cs.drop used) acc b
          | .entity name =>
            match predefinedEntity name with
            | some ch =>
              readValue r fuel opened (later used) (cs.drop used) (ch :: acc)
                { b with indirect := b.indirect + 1 }
            | none =>
              match entityOf? r.entities name with
              | none =>
                if r.checks then .error ("undefined entity", none)
                else readValue r fuel opened (later used) (cs.drop used) acc b
              | some e =>
                if opened.contains name then .error ("recursive entity reference", here)
                else match e with
                  | .unparsed => .error ("reference to binary entity", here)
                  | .external => .error ("reference to external entity in attribute", here)
                  | .internal text =>
                    match readValue r fuel (name :: opened) none text acc b with
                    | .error f => .error f
                    | .ok (acc, b) => readValue r fuel opened (later used) (cs.drop used) acc b
    | '<' :: _ => .error ("not well-formed (invalid token)", here)
    | '\r' :: rest =>
      if base.isNone then charge 1 fun b => readValue r fuel opened none rest (pushBlank r.cdata acc) b
      else match rest with
        | '\n' :: more => charge 2 fun b => readValue r fuel opened (later 2) more (pushBlank r.cdata acc) b
        | [] => .ok (pushBlank r.cdata acc, b)
        | _ => charge 1 fun b => readValue r fuel opened (later 1) rest (pushBlank r.cdata acc) b
    | c :: rest =>
      if c == ' ' || c == '\t' || c == '\n' then
        charge 1 fun b => readValue r fuel opened (later 1) rest (pushBlank r.cdata acc) b
      else
        let run := c :: rest.takeWhile (!endsValueRun ·)
        charge run.length fun b =>
          readValue r fuel opened (later run.length) (cs.drop run.length) (run.reverse ++ acc) b

/-- Normalizes a whole attribute value: outside `CDATA`, a last space goes. -/
def normalizeValue (r : ValueReader) (base : Option Nat) (text : List Char) (b : Budget) :
    Except ValueFault (String × Budget) :=
  match readValue r (text.length + activationBytes + 1) [] base text [] b with
  | .error f => .error f
  | .ok (acc, b) =>
    let acc := match acc with
      | ' ' :: rest => if r.cdata then acc else rest
      | _ => acc
    .ok (String.ofList acc.reverse, b)

end VCard.Xml
