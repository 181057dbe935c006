import VCard.Json.Value
import VCard.Number.Binary
/-! Reading JSON text (RFC 8259, with the constants `NaN`, `Infinity` and
`-Infinity`).

Blanks are space, tab, line feed and carriage return. A number without fraction
or exponent is an integer of any size; otherwise it is the nearest double.
Control characters may not stand in a string unescaped. An object's later member
replaces an earlier member of the same key, in the earlier member's place.

A failure names its cause and the character position where reading stopped;
`Failure.render` adds the line and column: `Expecting value: line 1 column 1
(char 0)`. Every value is read by the same function `readValue`, which consumes
at least one character, so the reader runs on fuel equal to the input's length. -/
namespace VCard.Json

/-- Why and where reading stopped. -/
structure Failure where
  message : String
  pos : Nat
  deriving Repr

/-- The message with line, column and position. -/
def Failure.render (src : List Char) (f : Failure) : String :=
  let before := src.take f.pos
  let line := before.count '\n' + 1
  let col := match (before.reverse.findIdx? (· == '\n')) with
    | some i => i + 1
    | none => f.pos + 1
  f.message ++ ": line " ++ toString line ++ " column " ++ toString col ++ " (char " ++
    toString f.pos ++ ")"

def isJsonBlank (c : Char) : Bool := c == ' ' || c == '\t' || c == '\n' || c == '\r'

/-- The input from a position on: the characters left and their position. -/
structure Cursor where
  rest : List Char
  pos : Nat

def Cursor.skipBlanks (c : Cursor) : Cursor :=
  let dropped := c.rest.takeWhile isJsonBlank
  ⟨c.rest.drop dropped.length, c.pos + dropped.length⟩

def Cursor.advance (c : Cursor) (n : Nat) : Cursor := ⟨c.rest.drop n, c.pos + n⟩

def hexDigit? (c : Char) : Option Nat :=
  if '0' ≤ c && c ≤ '9' then some (c.toNat - 48)
  else if 'a' ≤ c && c ≤ 'f' then some (c.toNat - 87)
  else if 'A' ≤ c && c ≤ 'F' then some (c.toNat - 55)
  else none

/-- Four hex digits as a number. -/
def hex4? (cs : List Char) : Option Nat :=
  match cs with
  | [a, b, c, d] => do
    let a ← hexDigit? a
    let b ← hexDigit? b
    let c ← hexDigit? c
    let d ← hexDigit? d
    pure (((a * 16 + b) * 16 + c) * 16 + d)
  | _ => none

/-- The character of a code point, with U+FFFD for a lone surrogate. -/
def codeChar (n : Nat) : Char :=
  if 0xD800 ≤ n && n < 0xE000 then Char.ofNat 0xFFFD else Char.ofNat n

/-- Reads the rest of a string whose opening quote stood at `begin`; the cursor
stands after that quote. -/
def readString (begin : Nat) (c : Cursor) : Except Failure (String × Cursor) :=
  go c.rest.length c []
where
  go : Nat → Cursor → List Char → Except Failure (String × Cursor)
    | 0, _, _ => .error ⟨"Unterminated string starting at", begin⟩
    | fuel + 1, c, acc =>
      match c.rest with
      | [] => .error ⟨"Unterminated string starting at", begin⟩
      | '"' :: _ => .ok (String.ofList acc.reverse, c.advance 1)
      | '\\' :: more =>
        match more with
        | [] => .error ⟨"Unterminated string starting at", begin⟩
        | 'u' :: digits =>
          -- `c.pos + 1` is the position of the `u`.
          if digits.length ≤ 4 then .error ⟨"Invalid \\uXXXX escape", c.pos + 1⟩
          else match hex4? (digits.take 4) with
            | none => .error ⟨"Invalid \\uXXXX escape", c.pos + 1⟩
            | some hi =>
              -- A high surrogate followed by a low one escapes one character.
              let after := digits.drop 4
              let low : Except Failure (Option Char) :=
                if 0xD800 ≤ hi && hi < 0xDC00 && !(after.drop 6).isEmpty then
                  match after with
                  | '\\' :: 'u' :: lowDigits =>
                    match hex4? (lowDigits.take 4) with
                    | none => .error ⟨"Invalid \\uXXXX escape", c.pos + 7⟩
                    | some lo =>
                      if 0xDC00 ≤ lo && lo < 0xE000 then
                        .ok (some (Char.ofNat (0x10000 + (hi - 0xD800) * 0x400 + (lo - 0xDC00))))
                      else .ok none
                  | _ => .ok none
                else .ok none
              match low with
              | .error f => .error f
              | .ok (some ch) => go fuel (c.advance 12) (ch :: acc)
              | .ok none => go fuel (c.advance 6) (codeChar hi :: acc)
        | e :: _ =>
          let decoded : Option Char :=
            if e == '"' then some '"' else if e == '\\' then some '\\'
            else if e == '/' then some '/' else if e == 'b' then some (Char.ofNat 8)
            else if e == 'f' then some (Char.ofNat 12) else if e == 'n' then some '\n'
            else if e == 'r' then some '\r' else if e == 't' then some '\t' else none
          match decoded with
          | some d => go fuel (c.advance 2) (d :: acc)
          | none => .error ⟨"Invalid \\escape", c.pos⟩
      | ch :: _ =>
        if ch.toNat < 0x20 then .error ⟨"Invalid control character at", c.pos⟩
        else go fuel (c.advance 1) (ch :: acc)

/-- Reads a number at the cursor, or `none` when none starts there. -/
def readNumber (c : Cursor) : Option (Value × Cursor) :=
  let isD (ch : Char) : Bool := '0' ≤ ch && ch ≤ '9'
  let (neg, afterSign) := match c.rest with
    | '-' :: r => (true, r)
    | r => (false, r)
  let intDigits : Option (List Char) := match afterSign with
    | '0' :: _ => some ['0']
    | d :: r => if isD d then some (d :: r.takeWhile isD) else none
    | [] => none
  match intDigits with
  | none => none
  | some ids =>
    let r := afterSign.drop ids.length
    let (fracDigits, r) := match r with
      | '.' :: d :: more => if isD d then ((d :: more).takeWhile isD, (d :: more).dropWhile isD) else ([], r)
      | _ => ([], r)
    let hasFrac := !fracDigits.isEmpty
    let (expPart, r) : Option Int × List Char := match r with
      | e :: more =>
        if e == 'e' || e == 'E' then
          let (eneg, digitsStart) := match more with
            | '-' :: m => (true, m)
            | '+' :: m => (false, m)
            | m => (false, m)
          let eds := digitsStart.takeWhile isD
          if eds.isEmpty then (none, r)
          else
            let v : Int := (eds.foldl (fun a d => a * 10 + (d.toNat - 48)) 0 : Nat)
            (some (if eneg then -v else v), digitsStart.drop eds.length)
        else (none, r)
      | [] => (none, r)
    let used := c.rest.length - r.length
    let mant : Nat := (ids ++ fracDigits).foldl (fun a d => a * 10 + (d.toNat - 48)) 0
    let value : Value :=
      if !hasFrac && expPart.isNone then
        .int (if neg then -(mant : Int) else mant)
      else
        .float (Number.Binary.ofDecimal neg mant (expPart.getD 0 - fracDigits.length))
    some (value, c.advance used)

/-- Adds a member to members kept in reverse order; a key already present keeps
its place and takes the new value. -/
def insertMember (acc : List (String × Value)) (k : String) (v : Value) : List (String × Value) :=
  if acc.any (·.1 == k) then acc.map (fun (k', v') => if k' == k then (k, v) else (k', v'))
  else (k, v) :: acc

mutual
/-- Reads one value at the cursor; a failure to find one is `Expecting value`. -/
def readValue : Nat → Cursor → Except Failure (Value × Cursor)
  | 0, c => .error ⟨"Expecting value", c.pos⟩
  | fuel + 1, c =>
    match c.rest with
    | [] => .error ⟨"Expecting value", c.pos⟩
    | '"' :: _ => (readString c.pos (c.advance 1)).map fun (s, c) => (.str s, c)
    | '{' :: _ =>
      let c := (c.advance 1).skipBlanks
      match c.rest with
      | '}' :: _ => .ok (.obj [], c.advance 1)
      | _ => readMembers fuel c []
    | '[' :: _ =>
      let c := (c.advance 1).skipBlanks
      match c.rest with
      | ']' :: _ => .ok (.arr [], c.advance 1)
      | _ => readItems fuel c []
    | 'n' :: 'u' :: 'l' :: 'l' :: _ => .ok (.null, c.advance 4)
    | 't' :: 'r' :: 'u' :: 'e' :: _ => .ok (.bool true, c.advance 4)
    | 'f' :: 'a' :: 'l' :: 's' :: 'e' :: _ => .ok (.bool false, c.advance 5)
    | 'N' :: 'a' :: 'N' :: _ => .ok (.float (0.0 / 0.0), c.advance 3)
    | 'I' :: 'n' :: 'f' :: 'i' :: 'n' :: 'i' :: 't' :: 'y' :: _ => .ok (.float (1.0 / 0.0), c.advance 8)
    | '-' :: 'I' :: 'n' :: 'f' :: 'i' :: 'n' :: 'i' :: 't' :: 'y' :: _ =>
      .ok (.float (-1.0 / 0.0), c.advance 9)
    | _ =>
      match readNumber c with
      | some r => .ok r
      | none => .error ⟨"Expecting value", c.pos⟩

/-- Reads array items from the cursor on, `acc` holding those read (reversed). -/
def readItems : Nat → Cursor → List Value → Except Failure (Value × Cursor)
  | 0, c, _ => .error ⟨"Expecting value", c.pos⟩
  | fuel + 1, c, acc => do
    let (v, c) ← readValue fuel c
    let c := c.skipBlanks
    match c.rest with
    | ']' :: _ => .ok (.arr (v :: acc).reverse, c.advance 1)
    | ',' :: _ => readItems fuel (c.advance 1).skipBlanks (v :: acc)
    | _ => .error ⟨"Expecting ',' delimiter", c.pos⟩

/-- Reads object members from the cursor on. -/
def readMembers : Nat → Cursor → List (String × Value) → Except Failure (Value × Cursor)
  | 0, c, _ => .error ⟨"Expecting value", c.pos⟩
  | fuel + 1, c, acc => do
    match c.rest with
    | '"' :: _ =>
      let (key, c) ← readString c.pos (c.advance 1)
      let c := c.skipBlanks
      match c.rest with
      | ':' :: _ =>
        let (v, c) ← readValue fuel (c.advance 1).skipBlanks
        let c := c.skipBlanks
        let acc := insertMember acc key v
        match c.rest with
        | '}' :: _ => .ok (.obj acc.reverse, c.advance 1)
        | ',' :: _ => readMembers fuel (c.advance 1).skipBlanks acc
        | _ => .error ⟨"Expecting ',' delimiter", c.pos⟩
      | _ => .error ⟨"Expecting ':' delimiter", c.pos⟩
    | _ => .error ⟨"Expecting property name enclosed in double quotes", c.pos⟩

end

/-- Reads a whole JSON text: one value between blanks. -/
def parse (s : String) : Except Failure Value :=
  let cs := s.toList
  match cs with
  | c :: _ =>
    if c.toNat == 0xFEFF then .error ⟨"Unexpected UTF-8 BOM (decode using utf-8-sig)", 0⟩
    else body cs
  | [] => body cs
where
  body (cs : List Char) : Except Failure Value := do
    let start := (Cursor.mk cs 0).skipBlanks
    let (v, c) ← readValue (cs.length + 1) start
    let c := c.skipBlanks
    if c.rest.isEmpty then .ok v else .error ⟨"Extra data", c.pos⟩

/-- Reads a whole JSON text, the failure rendered as a message. -/
def parseText (s : String) : Except String Value :=
  match parse s with
  | .ok v => .ok v
  | .error f => .error (f.render s.toList)

end VCard.Json
