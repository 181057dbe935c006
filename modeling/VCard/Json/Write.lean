import VCard.Json.Value
/-! Writing JSON text.

Strings keep every printable character as it is; the quote, the backslash and the
controls are escaped (`\n`, `\r`, `\t`, `\b`, `\f`, else `\u00hh`). Doubles take
their shortest text, and NaN and the infinities the words `NaN`, `Infinity` and
`-Infinity`. Compact text has no blanks; indented text puts every item on a line
of its own, two spaces deeper per level, with `: ` after a key. -/
namespace VCard.Json

/-- The escape of one character inside a string. -/
def escapeChar (c : Char) : List Char :=
  if c == '"' then ['\\', '"']
  else if c == '\\' then ['\\', '\\']
  else if c == '\n' then ['\\', 'n']
  else if c == '\r' then ['\\', 'r']
  else if c == '\t' then ['\\', 't']
  else if c.toNat == 8 then ['\\', 'b']
  else if c.toNat == 12 then ['\\', 'f']
  else if c.toNat < 0x20 then '\\' :: 'u' :: Text.hexPadded 4 c.toNat
  else [c]

/-- A string as JSON text, quotes included. -/
def quoteString (s : String) : String :=
  String.ofList ('"' :: s.toList.flatMap escapeChar ++ ['"'])

/-- A double as JSON text. -/
def floatJson (x : Float) : String :=
  match Number.Binary.ofFloat x with
  | .nan => "NaN"
  | .infinite true => "-Infinity"
  | .infinite false => "Infinity"
  | .finite .. => Number.floatText x

/-- The text of a scalar value. -/
def scalarText : Value → String
  | .null => "null"
  | .bool b => if b then "true" else "false"
  | .int n => toString n
  | .float x => floatJson x
  | .str s => quoteString s
  | _ => ""

mutual
/-- Compact JSON text. -/
def compact : Value → String
  | .arr items => "[" ++ ",".intercalate (compactItems items) ++ "]"
  | .obj fields => "\x7b" ++ ",".intercalate (compactFields fields) ++ "\x7d"
  | v => scalarText v

def compactItems : List Value → List String
  | [] => []
  | v :: rest => compact v :: compactItems rest

def compactFields : List (String × Value) → List String
  | [] => []
  | (k, v) :: rest => (quoteString k ++ ":" ++ compact v) :: compactFields rest
end

/-- A line break and the blanks of an indentation level. -/
def newline (level : Nat) : String := "\n" ++ "".pushn ' ' (2 * level)

mutual
/-- Indented JSON text at a nesting level. -/
def indented (level : Nat) : Value → String
  | .arr [] => "[]"
  | .obj [] => "\x7b\x7d"
  | .arr items =>
    "[" ++ newline (level + 1) ++ ("," ++ newline (level + 1)).intercalate (indentedItems (level + 1) items) ++
      newline level ++ "]"
  | .obj fields =>
    "\x7b" ++ newline (level + 1) ++
      ("," ++ newline (level + 1)).intercalate (indentedFields (level + 1) fields) ++
      newline level ++ "\x7d"
  | v => scalarText v

def indentedItems (level : Nat) : List Value → List String
  | [] => []
  | v :: rest => indented level v :: indentedItems level rest

def indentedFields (level : Nat) : List (String × Value) → List String
  | [] => []
  | (k, v) :: rest => (quoteString k ++ ": " ++ indented level v) :: indentedFields level rest
end

theorem compact_str (s : String) : compact (.str s) = quoteString s := rfl

end VCard.Json
