import VCard.Number.Read
import VCard.Toml.Value
/-! Reading TOML documents (TOML 1.0) into TOML values.

A document is a series of lines, each empty, a comment, a key/value pair or a
table header (`[a.b]` opens a table, `[[a.b]]` adds a table to an array of
tables); keys may be dotted and quoted. Values are strings (basic with escapes,
literal, and their multi-line forms), integers (decimal, hexadecimal, octal and
binary, with `_` between digits), floats (with `inf` and `nan`), booleans,
dates and times, arrays and inline tables.

A document is rejected when a value is defined twice, when a table is declared
twice or over a value, when an inline table or array is changed afterwards, and
on every syntax error, and a date that does not exist (year 0 included).

Reading is a parser over the remaining characters; every step along a path
takes one unit of fuel, and each loop round consumes a character, so twice the
length of the text is enough. -/
namespace VCard

namespace Toml

/-- A key path. -/
abbrev Key := List String

/-- Marks on keys: tables declared by a header, and values that may not change. -/
inductive Mark where
  | declared
  | frozen
  deriving DecidableEq

/-- A mark on a key; a recursive mark covers everything below the key too. -/
structure Flag where
  key : Key
  mark : Mark
  recursive : Bool
  deriving DecidableEq

/-- What reading carries: the document so far and the marks. -/
structure Doc where
  root : List (String × Value) := []
  flags : List Flag := []
  pending : List Key := []

/-- Whether a key carries a mark. -/
def Doc.marked (d : Doc) (key : Key) (m : Mark) : Bool :=
  !key.isEmpty && d.flags.any fun f =>
    f.mark == m && (f.key == key || (f.recursive && f.key.length < key.length && key.take f.key.length == f.key))

def Doc.mark (d : Doc) (key : Key) (m : Mark) (recursive : Bool) : Doc :=
  { d with flags := d.flags ++ [⟨key, m, recursive⟩] }

/-- Drops every mark on a key and below it. -/
def Doc.unmarkAll (d : Doc) (key : Key) : Doc :=
  { d with flags := d.flags.filter fun f => !(f.key.length ≥ key.length && f.key.take key.length == key) }

/-- Marks the keys set aside by dotted keys as declared. -/
def Doc.settle (d : Doc) : Doc :=
  { (d.pending.foldl (fun d k => d.mark k .declared false) d) with pending := [] }

/-- Sets a member of an object, in place when it is there. -/
def setField (fields : List (String × Value)) (k : String) (v : Value) : List (String × Value) :=
  if fields.any (·.1 == k) then fields.map fun f => if f.1 == k then (k, v) else f else fields ++ [(k, v)]

def getField (fields : List (String × Value)) (k : String) : Option Value :=
  (fields.find? (·.1 == k)).map (·.2)

/-- Changes the table at a path, creating missing tables on the way; through an
array of tables the last table is taken (when `throughArrays`). -/
def modifyTable (throughArrays : Bool) :
    Key → (List (String × Value) → Except String (List (String × Value))) →
      List (String × Value) → Except String (List (String × Value))
  | [], f, fields => f fields
  | k :: rest, f, fields =>
    match getField fields k with
    | none => do
      let inner ← modifyTable throughArrays rest f []
      pure (setField fields k (.obj inner))
    | some (.obj inner) => do
      let inner ← modifyTable throughArrays rest f inner
      pure (setField fields k (.obj inner))
    | some (.arr items) =>
      if !throughArrays then throw "There is no nest behind this key"
      else match items.getLast? with
        | some (.obj inner) => do
          let inner ← modifyTable throughArrays rest f inner
          pure (setField fields k (.arr (items.dropLast ++ [.obj inner])))
        | _ => throw "There is no nest behind this key"
    | some _ => throw "There is no nest behind this key"

/-! ### Characters -/

def isWs (c : Char) : Bool := c == ' ' || c == '\t'

def isBareKeyChar (c : Char) : Bool :=
  ('a' ≤ c && c ≤ 'z') || ('A' ≤ c && c ≤ 'Z') || ('0' ≤ c && c ≤ '9') || c == '-' || c == '_'

/-- Control characters (tab and, where allowed, line feed excepted). -/
def isControl (c : Char) : Bool := c.toNat < 32 || c.toNat == 127

def isHexDigit (c : Char) : Bool := c.isDigit || ('a' ≤ c && c ≤ 'f') || ('A' ≤ c && c ≤ 'F')

/-- Reading: the characters left, or an error. -/
abbrev P := StateT (List Char) (Except String)

def peek : P (Option Char) := do return (← get).head?

def advance (n : Nat := 1) : P Unit := modify (·.drop n)

def startsWith (s : String) : P Bool := do return (← get).take s.length == s.toList

def skipWs : P Unit := modify (·.dropWhile isWs)

/-- Skips a comment up to the end of its line. -/
def skipComment : P Unit := do
  if (← peek) == some '#' then
    let rest := (← get).drop 1
    let body := rest.takeWhile (· != '\n')
    if body.any fun c => isControl c && c != '\t' then throw "Illegal character in a comment"
    set (rest.drop body.length)

/-- Skips blanks, line ends and comments, as between array items. -/
def skipArrayGaps : Nat → P Unit
  | 0 => pure ()
  | n + 1 => do
    let before := (← get).length
    modify (·.dropWhile fun c => isWs c || c == '\n')
    skipComment
    if (← get).length < before then skipArrayGaps n

/-! ### Strings -/

/-- The character of a `\u` or `\U` escape. -/
def hexChar (len : Nat) : P String := do
  let cs := (← get).take len
  if cs.length != len || !cs.all isHexDigit then throw "Invalid hex value"
  advance len
  let n := cs.foldl (fun n c => 16 * n + (if c.isDigit then c.toNat - 48
    else if 'a' ≤ c && c ≤ 'f' then c.toNat - 87 else c.toNat - 55)) 0
  if n ≥ 0x110000 || (0xD800 ≤ n && n ≤ 0xDFFF) then throw "Escaped character is not a Unicode scalar value"
  pure (Char.ofNat n).toString

/-- An escape after a backslash in a basic string. -/
def escape (multiline : Bool) : P String := do
  let cs ← get
  match cs with
  | '\\' :: c :: _ =>
    if multiline && (c == ' ' || c == '\t' || c == '\n') then
      advance 2
      if c != '\n' then
        skipWs
        match ← peek with
        | none => return ""
        | some '\n' => advance
        | some _ => throw "Unescaped backslash in a string"
      modify (·.dropWhile fun c => isWs c || c == '\n')
      return ""
    advance 2
    match c with
    | 'u' => hexChar 4
    | 'U' => hexChar 8
    | 'b' => return "\x08"
    | 't' => return "\t"
    | 'n' => return "\n"
    | 'f' => return "\x0C"
    | 'r' => return "\r"
    | '"' => return "\""
    | '\\' => return "\\"
    | _ => throw "Unescaped backslash in a string"
  | _ => throw "Unescaped backslash in a string"

/-- The body of a basic string after its opening quotes. -/
def basicBody (multiline : Bool) : Nat → String → P String
  | 0, _ => throw "Unterminated string"
  | n + 1, acc => do
    match ← peek with
    | none => throw "Unterminated string"
    | some '"' =>
      if !multiline then advance; return acc
      if ← startsWith "\"\"\"" then advance 3; return acc
      advance
      basicBody multiline n (acc.push '"')
    | some '\\' =>
      let e ← escape multiline
      basicBody multiline n (acc ++ e)
    | some c =>
      if isControl c && c != '\t' && !(multiline && c == '\n') then throw "Illegal character"
      advance
      basicBody multiline n (acc.push c)

/-- A literal string `'…'`. -/
def literalString : P String := do
  advance
  let cs ← get
  let body := cs.takeWhile fun c => c != '\'' && c != '\n' && !(isControl c && c != '\t')
  match cs.drop body.length with
  | '\'' :: rest => set rest; return String.ofList body
  | _ => throw "Unterminated string"

/-- A multi-line string, `"""…"""` or `'''…'''`. -/
def multilineString (literal : Bool) : P String := do
  advance 3
  if (← peek) == some '\n' then advance
  let delim : Char := if literal then '\'' else '"'
  let body ← if literal then do
      let cs ← get
      let rec find : Nat → List Char → Option Nat
        | _, '\'' :: '\'' :: '\'' :: _ => some 0
        | fuel + 1, c :: rest => if isControl c && c != '\t' && c != '\n' then none else (find fuel rest).map (· + 1)
        | _, _ => none
      match find cs.length cs with
      | some i => set (cs.drop (i + 3)); pure (String.ofList (cs.take i))
      | none => throw "Unterminated string"
    else basicBody true ((← get).length + 1) ""
  if (← peek) != some delim then return body
  advance
  if (← peek) != some delim then return body.push delim
  advance
  return (body.push delim).push delim

/-- A single-line basic string `"…"`. -/
def basicString : P String := do
  advance
  basicBody false ((← get).length + 1) ""

/-! ### Numbers, dates and times -/

/-- Digits with single underscores between them. -/
def digitRun (ok : Char → Bool) (cs : List Char) : Nat :=
  match cs with
  | c :: rest =>
    if ok c then
      let rec go : Nat → List Char → Nat
        | fuel + 1, '_' :: d :: more => if ok d then go fuel more + 2 else 0
        | fuel + 1, d :: more => if ok d then go fuel more + 1 else 0
        | _, _ => 0
      1 + go rest.length rest
    else 0
  | [] => 0

/-- The value of digits in a base, underscores skipped. -/
def digitsValue (base : Nat) (cs : List Char) : Nat :=
  cs.foldl (fun n c =>
    if c == '_' then n
    else base * n + (if c.isDigit then c.toNat - 48
      else if 'a' ≤ c && c ≤ 'f' then c.toNat - 87 else c.toNat - 55)) 0

/-- A number at the front: its length and value, as the longest prefix that
reads as a TOML integer or float. -/
def number? (cs : List Char) : Option (Nat × Value) :=
  let based (b : Char) (ok : Char → Bool) (base : Nat) : Option (Nat × Value) :=
    match cs with
    | '0' :: c :: rest =>
      if c == b then
        let n := digitRun ok rest
        if n == 0 then none else some (n + 2, .int (digitsValue base (rest.take n)))
      else none
    | _ => none
  let special := based 'x' isHexDigit 16 <|> based 'b' (fun c => c == '0' || c == '1') 2 <|>
    based 'o' (fun c => '0' ≤ c && c ≤ '7') 8
  match special with
  | some r => some r
  | none =>
    let (signLen, rest) := match cs with
      | '+' :: r | '-' :: r => (1, r)
      | r => (0, r)
    let intLen := match rest with
      | '0' :: _ => 1
      | c :: _ => if '1' ≤ c && c ≤ '9' then digitRun Char.isDigit rest else 0
      | [] => 0
    if intLen == 0 then none
    else
      let afterInt := rest.drop intLen
      let fracLen := match afterInt with
        | '.' :: r => let n := digitRun Char.isDigit r; if n == 0 then 0 else n + 1
        | _ => 0
      let afterFrac := afterInt.drop fracLen
      let expLen := match afterFrac with
        | e :: r =>
          if e == 'e' || e == 'E' then
            let (s, r) := match r with
              | '+' :: r2 | '-' :: r2 => (1, r2)
              | r2 => (0, r2)
            let n := digitRun Char.isDigit r
            if n == 0 then 0 else n + s + 1
          else 0
        | [] => 0
      let total := signLen + intLen + fracLen + expLen
      let text := cs.take total
      if fracLen + expLen == 0 then
        let magnitude : Int := digitsValue 10 (rest.take intLen)
        some (total, .int (if cs.head? == some '-' then -magnitude else magnitude))
      else
        match Number.parseFloat? (String.ofList (text.filter (· != '_'))) with
        | some x => some (total, .float x)
        | none => none

/-- Two digits at the front. -/
def twoDigits? : List Char → Option Nat
  | a :: b :: _ => if a.isDigit && b.isDigit then some (10 * (a.toNat - 48) + (b.toNat - 48)) else none
  | _ => none

/-- A time `hh:mm:ss` with an optional fraction, of which the first six digits
count: its length and the time. -/
def time? (cs : List Char) : Option (Nat × Clock) := do
  let h ← twoDigits? cs
  let m ← twoDigits? (cs.drop 3)
  let s ← twoDigits? (cs.drop 6)
  if cs[2]? != some ':' || cs[5]? != some ':' || h > 23 || m > 59 || s > 59 then none
  match cs.drop 8 with
  | '.' :: rest =>
    let ds := rest.takeWhile Char.isDigit
    if ds.isEmpty then some (8, ⟨h, m, s, 0⟩)
    else
      let micro := digitsValue 10 ((ds.take 6) ++ List.replicate (6 - min 6 ds.length) '0')
      some (9 + ds.length, ⟨h, m, s, micro⟩)
  | _ => some (8, ⟨h, m, s, 0⟩)

/-- An offset `Z` or `±hh:mm` at the front: its length and the offset in minutes. -/
def offset? (cs : List Char) : Option (Nat × Int) :=
  match cs with
  | z :: _ =>
    if z == 'Z' || z == 'z' then some (1, 0)
    else if z == '+' || z == '-' then
      match twoDigits? (cs.drop 1), cs[3]?, twoDigits? (cs.drop 4) with
      | some hh, some ':', some mm =>
        if hh ≤ 23 && mm ≤ 59 then
          let minutes : Int := hh * 60 + mm
          some (6, if z == '-' then -minutes else minutes)
        else none
      | _, _, _ => none
    else none
  | [] => none

def daysIn (year month : Nat) : Nat :=
  if month == 2 then (if (year % 4 == 0 && year % 100 != 0) || year % 400 == 0 then 29 else 28)
  else if month == 4 || month == 6 || month == 9 || month == 11 then 30 else 31

/-- A date, date-time or time at the front: its length and the moment, or an
error for a date that does not exist. -/
def dateTime? (cs : List Char) : Option (Except String (Nat × Moment)) :=
  let date : Option (Nat × Nat × Nat) := do
    let ys := cs.take 4
    if ys.length != 4 || !ys.all Char.isDigit || cs[4]? != some '-' || cs[7]? != some '-' then none
    let m ← twoDigits? (cs.drop 5)
    let d ← twoDigits? (cs.drop 8)
    if m < 1 || m > 12 || d < 1 || d > 31 then none
    pure (digitsValue 10 ys, m, d)
  match date with
  | some (y, m, d) =>
    let day : Date := ⟨y, m, d⟩
    let withTime : Option (Nat × Moment) := match cs.drop 10 with
      | sep :: rest =>
        if sep == 'T' || sep == 't' || sep == ' ' then
          (time? rest).map fun (n, t) =>
            match offset? (rest.drop n) with
            | some (zn, o) => (11 + n + zn, .dateTime day t (some o))
            | none => (11 + n, .dateTime day t none)
        else none
      | [] => none
    if y == 0 || d > daysIn y m then some (.error "Invalid date or datetime")
    else some (.ok (withTime.getD (10, .date day)))
  | none => (time? cs).map fun (n, t) => .ok (n, .time t)

/-! ### Values and documents -/

/-- One part of a key: bare or quoted. -/
def keyPart : P String := do
  match ← peek with
  | some '\'' => literalString
  | some '"' => basicString
  | some c =>
    if isBareKeyChar c then
      let cs ← get
      let part := cs.takeWhile isBareKeyChar
      advance part.length
      return String.ofList part
    else throw "Invalid initial character for a key part"
  | none => throw "Invalid initial character for a key part"

mutual

/-- A value. -/
def value : Nat → P Value
  | 0 => throw "Too deeply nested"
  | n + 1 => do
    let cs ← get
    match cs with
    | '"' :: _ =>
      if ← startsWith "\"\"\"" then return .str (← multilineString false)
      return .str (← basicString)
    | '\'' :: _ =>
      if ← startsWith "'''" then return .str (← multilineString true)
      return .str (← literalString)
    | 't' :: 'r' :: 'u' :: 'e' :: rest => set rest; return .bool true
    | 'f' :: 'a' :: 'l' :: 's' :: 'e' :: rest => set rest; return .bool false
    | '[' :: _ => advance; skipArrayGaps cs.length; arrayItems n []
    | '{' :: _ => advance; skipWs; inlineTable n {}
    | _ =>
      match dateTime? cs with
      | some (.ok (len, m)) => advance len; return .moment m
      | some (.error e) => throw e
      | none =>
        match number? cs with
        | some (len, v) => advance len; return v
        | none =>
          let special := ["inf", "nan", "+inf", "-inf", "+nan", "-nan"].find? fun s => cs.take s.length == s.toList
          match special with
          | some s =>
            advance s.length
            return .float ((Number.parseFloat? s).getD 0)
          | none => throw "Invalid value"

/-- The items of an array after its opening bracket. -/
def arrayItems : Nat → List Value → P Value
  | 0, _ => throw "Too deeply nested"
  | n + 1, items => do
    if (← peek) == some ']' then advance; return .arr items
    let v ← value n
    let items := items ++ [v]
    skipArrayGaps (← get).length
    match ← peek with
    | some ']' => advance; return .arr items
    | some ',' =>
      advance
      skipArrayGaps (← get).length
      arrayItems n items
    | _ => throw "Unclosed array"

/-- The pairs of an inline table after its opening brace. -/
def inlineTable : Nat → Doc → P Value
  | 0, _ => throw "Too deeply nested"
  | n + 1, doc => do
    if doc.root.isEmpty && (← peek) == some '}' then advance; return .obj []
    let key ← keyPath n
    if (← peek) != some '=' then throw "Expected '=' after a key in a key/value pair"
    advance
    skipWs
    let v ← value n
    if doc.marked key .frozen then throw "Cannot mutate immutable namespace"
    let stem := key.getLastD ""
    let root ← StateT.lift (modifyTable false key.dropLast (fun fields =>
      if fields.any (·.1 == stem) then throw "Duplicate inline table key" else pure (fields ++ [(stem, v)])) doc.root)
    let doc := { doc with root }
    skipWs
    match ← peek with
    | some '}' => advance; return .obj doc.root
    | some ',' =>
      let doc := match v with
        | .obj _ | .arr _ => doc.mark key .frozen true
        | _ => doc
      advance
      skipWs
      inlineTable n doc
    | _ => throw "Unclosed inline table"

/-- A dotted key, blanks around the dots. -/
def keyPath : Nat → P Key
  | 0 => throw "Too deeply nested"
  | n + 1 => do
    let part ← keyPart
    skipWs
    if (← peek) == some '.' then
      advance
      skipWs
      return part :: (← keyPath n)
    return [part]

end

/-- A key/value line under a table header. -/
def keyValue (fuel : Nat) (header : Key) (doc : Doc) : P Doc := do
  let key ← keyPath fuel
  if (← peek) != some '=' then throw "Expected '=' after a key in a key/value pair"
  advance
  skipWs
  let v ← value fuel
  let parents := (List.range (key.length - 1)).map fun i => header ++ key.take (i + 1)
  for p in parents do
    if doc.marked p .declared then throw "Cannot redefine namespace"
  let doc := { doc with pending := doc.pending ++ parents }
  let parent := header ++ key.dropLast
  if doc.marked parent .frozen then throw "Cannot mutate immutable namespace"
  let stem := key.getLastD ""
  let root ← StateT.lift (modifyTable true parent (fun fields =>
    if fields.any (·.1 == stem) then throw "Cannot overwrite a value" else pure (fields ++ [(stem, v)])) doc.root)
  let doc := { doc with root }
  match v with
  | .obj _ | .arr _ => return doc.mark (header ++ key) .frozen true
  | _ => return doc

/-- A table header `[key]`. -/
def tableHeader (fuel : Nat) (doc : Doc) : P (Key × Doc) := do
  advance
  skipWs
  let key ← keyPath fuel
  if doc.marked key .declared || doc.marked key .frozen then throw "Cannot declare a table twice"
  let doc := doc.mark key .declared false
  let root ← StateT.lift (modifyTable true key pure doc.root)
  if (← peek) != some ']' then throw "Expected ']' at the end of a table declaration"
  advance
  return (key, { doc with root })

/-- An array-of-tables header `[[key]]`. -/
def arrayHeader (fuel : Nat) (doc : Doc) : P (Key × Doc) := do
  advance 2
  skipWs
  let key ← keyPath fuel
  if doc.marked key .frozen then throw "Cannot mutate immutable namespace"
  let doc := (doc.unmarkAll key).mark key .declared false
  let stem := key.getLastD ""
  let root ← StateT.lift (modifyTable true key.dropLast (fun fields =>
    match getField fields stem with
    | some (.arr items) => pure (setField fields stem (.arr (items ++ [.obj []])))
    | some _ => throw "An object other than list found behind this key"
    | none => pure (fields ++ [(stem, .arr [.obj []])])) doc.root)
  if !(← startsWith "]]") then throw "Expected ']]' at the end of an array declaration"
  advance 2
  return (key, { doc with root })

/-- The lines of a document. -/
def lines : Nat → Key → Doc → P Doc
  | 0, _, doc => pure doc
  | n + 1, header, doc => do
    skipWs
    match ← peek with
    | none => return doc
    | some '\n' => advance; lines n header doc
    | some c =>
      let (header, doc) ← if isBareKeyChar c || c == '"' || c == '\'' then do
          let doc ← keyValue ((← get).length * 2 + 2) header doc
          skipWs
          pure (header, doc)
        else if c == '[' then do
          let doc := doc.settle
          let (h, doc) ← if (← startsWith "[[") then arrayHeader ((← get).length + 1) doc
            else tableHeader ((← get).length + 1) doc
          skipWs
          pure (h, doc)
        else if c == '#' then pure (header, doc)
        else throw "Invalid statement"
      skipComment
      match ← peek with
      | none => return doc
      | some '\n' => advance; lines n header doc
      | some _ => throw "Expected newline or end of document after a statement"

/-- Replaces each CR LF by LF. -/
def joinLineEnds : List Char → List Char
  | '\r' :: '\n' :: rest => '\n' :: joinLineEnds rest
  | c :: rest => c :: joinLineEnds rest
  | [] => []

/-- Reads a document into the members of its root table. -/
def parse (text : String) : Except String (List (String × Value)) :=
  let cs := joinLineEnds text.toList
  ((lines (cs.length + 1) [] {}).run cs).map (·.1.root)

end Toml

end VCard
