import VCard.DataType
/-! The grammar of a content line (RFC 6350 §3.3).

A content line is `[group "."] name *(";" param) ":" value`, where group and
name are runs of ASCII letters, digits, `-` and `_` (an `_` in the name reads as
`-`). A parameter is `";" name`, then values each introduced by `=` or `,`; a
value is either quoted (`"..."`, any character but `"`) or a run of characters
other than `"`, `;`, `:` and `,`. One stray `;` may stand before the parameters.

Where a quoted value holds a `:`, several readings of a line could place the
colon that starts the value differently. The reader takes the first reading in
this order: values quoted before plain, plain runs longest first, and as many
values and parameters as possible (`paramsThen`).

The parameters are then read off the text before that colon, scanning left to
right: each `;` followed by a name starts a parameter, whose values follow a
single `=` and are separated by commas. Plain values that are empty are dropped,
an empty quoted value is kept, and a parameter with no `=` has no values. -/
namespace VCard.ContentLine

/-- A content line taken apart. -/
structure Parsed where
  group : Option String
  name : String
  /-- The parameters in order, each a name and its values. -/
  params : List (String × List String)
  value : String
  deriving Repr, DecidableEq

/-- Characters of names: ASCII letters and digits, `-` and `_`. -/
def isNameChar (c : Char) : Bool :=
  ('a' ≤ c && c ≤ 'z') || ('A' ≤ c && c ≤ 'Z') || ('0' ≤ c && c ≤ '9') || c == '-' || c == '_'

/-- Characters of unquoted parameter values. -/
def isSafeChar (c : Char) : Bool := c != '"' && c != ';' && c != ':' && c != ','

/-- Where a parameter value can end, in the order they are tried: after a quoted
value, then after each plain run, longest first. -/
def valueEnds (cs : List Char) : List (List Char) :=
  let quoted := match cs with
    | '"' :: r =>
      match r.dropWhile (· != '"') with
      | '"' :: more => [more]
      | _ => []
    | _ => []
  let run := (cs.takeWhile isSafeChar).length
  quoted ++ (List.range (run + 1)).reverse.map (fun n => cs.drop n)

/-- Reads the values of a parameter (each after `=` or `,`), then goes on with `k`;
more values are tried before fewer. -/
def valuesThen {β : Type} (k : List Char → Option β) : Nat → List Char → Option β
  | 0, cs => k cs
  | fuel + 1, cs =>
    let more := match cs with
      | c :: r => if c == '=' || c == ',' then (valueEnds r).findSome? (valuesThen k fuel) else none
      | [] => none
    more <|> k cs

/-- Reads parameters (each `;` name values), then goes on with `k`; more
parameters are tried before fewer. -/
def paramsStarThen {β : Type} (k : List Char → Option β) : Nat → List Char → Option β
  | 0, cs => k cs
  | fuel + 1, cs =>
    let more := match cs with
      | ';' :: r =>
        let name := r.takeWhile isNameChar
        if name.isEmpty then none
        else valuesThen (paramsStarThen k fuel) (r.length + 1) (r.drop name.length)
      | _ => none
    more <|> k cs

/-- Reads the parameter part: an optional stray `;`, then parameters. -/
def paramsThen {β : Type} (k : List Char → Option β) (cs : List Char) : Option β :=
  let stray := match cs with
    | ';' :: r => paramsStarThen k (r.length + 1) r
    | _ => none
  stray <|> paramsStarThen k (cs.length + 1) cs

/-- Reads one parameter value for the parameter scan: a closed quoted value, or
a plain run (possibly empty). -/
def scanValue (cs : List Char) : List Char × List Char :=
  match cs with
  | '"' :: r =>
    match r.dropWhile (· != '"') with
    | '"' :: more => (cs.take (cs.length - more.length), more)
    | _ => ([], cs)
  | _ => (cs.takeWhile isSafeChar, cs.dropWhile isSafeChar)

/-- The text of a parameter's values: one value, then `,` and a value as often as
they follow. -/
def scanValues : Nat → List Char → List Char × List Char
  | 0, cs => ([], cs)
  | fuel + 1, cs =>
    let (first, rest) := scanValue cs
    match rest with
    | ',' :: more =>
      let (others, rest) := scanValues fuel more
      (first ++ ',' :: others, rest)
    | _ => (first, rest)

/-- The values in the text of a parameter's values: quoted values (kept even
when empty) and plain runs (dropped when empty). -/
def splitValues : Nat → List Char → List String
  | 0, _ => []
  | _, [] => []
  | fuel + 1, c :: r =>
    if c == '"' then
      match r.dropWhile (· != '"') with
      | '"' :: more => String.ofList (r.takeWhile (· != '"')) :: splitValues fuel more
      | _ => splitValues fuel r
    else if isSafeChar c then
      String.ofList ((c :: r).takeWhile isSafeChar) :: splitValues fuel (r.dropWhile isSafeChar)
    else splitValues fuel r

/-- The parameters in the parameter part of a line, scanning left to right. -/
def scanParams : Nat → List Char → List (String × List String)
  | 0, _ => []
  | _, [] => []
  | fuel + 1, c :: r =>
    if c == ';' then
      let name := r.takeWhile isNameChar
      if name.isEmpty then scanParams fuel r
      else
        match r.drop name.length with
        | '=' :: more =>
          let (text, rest) := scanValues (more.length + 1) more
          (String.ofList name, splitValues (text.length + 1) text) :: scanParams fuel rest
        | rest => (String.ofList name, []) :: scanParams fuel rest
    else scanParams fuel r

/-- Reads a content line. -/
def parse (line : String) : Option Parsed := do
  let cs := line.toList
  let first := cs.takeWhile isNameChar
  if first.isEmpty then none
  let rest := cs.drop first.length
  let (group, name, rest) ← match rest with
    | '.' :: more =>
      let second := more.takeWhile isNameChar
      if second.isEmpty then none else some (some first, second, more.drop second.length)
    | _ => some (none, first, rest)
  let valueStart ← paramsThen (fun r => match r with
    | ':' :: v => some v
    | _ => none) rest
  let paramText := rest.take (rest.length - valueStart.length - 1)
  pure {
    group := group.map String.ofList
    name := String.ofList (name.map fun c => if c == '_' then '-' else c)
    params := scanParams (paramText.length + 1) paramText
    value := String.ofList valueStart }

/-- The name of a parameter written without one (`TEL;HOME:...`, vCard 2.1),
guessed from its value: an encoding, then a value type (known or created
before), and otherwise a `TYPE`. -/
def guessParameterName (types : DataType.Registry) (value : String) : String :=
  let v := Text.lower value
  if ["7bit", "8bit", "base64", "quoted-printable", "b"].contains v then "ENCODING"
  else if ["inline", "url", "content-id", "cid"].contains v || (types.find? v).isSome then "VALUE"
  else "TYPE"

end VCard.ContentLine
