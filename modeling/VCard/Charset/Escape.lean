import VCard.Charset.Fault
/-! Text written with backslash escapes, byte for byte otherwise.

The escape codec writes printable ASCII as itself (the backslash doubled), tab,
line feed and carriage return as `\t`, `\n`, `\r`, other characters below
U+0100 as `\xhh`, and the rest as `\uhhhh` or `\Uhhhhhhhh`. Reading takes every
escape of a string literal: the single-character ones, one to three octal digits,
the hex forms with exactly their number of digits, and a backslash before a line
feed as nothing; a backslash before any other character is kept with it. Names
(`\N{...}`) are not known here and do not decode.

The raw escape codec writes characters below U+0100 as their byte and the others
as `\uhhhh` or `\Uhhhhhhhh`; reading takes only those two forms, and only after
an odd number of backslashes. -/
namespace VCard.Charset

/-- The value of a hex digit byte. -/
def hexValue? (b : Nat) : Option Nat :=
  if 48 ≤ b && b ≤ 57 then some (b - 48)
  else if 97 ≤ b && b ≤ 102 then some (b - 87)
  else if 65 ≤ b && b ≤ 70 then some (b - 55)
  else none

/-- Lower-case hex digits of `n`, `width` of them, as bytes. -/
def hexBytes (width n : Nat) : List UInt8 :=
  (Text.hexPadded width n).map fun c => UInt8.ofNat c.toNat

/-- The bytes of an ASCII text. -/
def asciiBytes (s : String) : List UInt8 := s.toList.map fun c => UInt8.ofNat c.toNat

/-- How reading `count` hex digits went: the value and the bytes after them; or,
at the offset where a digit is missing, whether the input ended there. -/
inductive HexRead where
  | value (n : Nat) (rest : List UInt8)
  | missing (offset : Nat) (atEnd : Bool)

/-- Reads `count` hex digits at offset `pos`. -/
def readHex : Nat → Nat → Nat → List UInt8 → HexRead
  | 0, _, acc, rest => .value acc rest
  | _ + 1, pos, _, [] => .missing pos true
  | k + 1, pos, acc, b :: rest =>
    match hexValue? b.toNat with
    | some d => readHex k (pos + 1) (acc * 16 + d) rest
    | none => .missing pos false

/-- The character of a code point, U+FFFD for a surrogate. -/
def pointChar (n : Nat) : Char :=
  if 0xD800 ≤ n && n < 0xE000 then replacementChar else Char.ofNat n

/-- The character a single-character escape stands for. -/
def simpleEscape? (b : Nat) : Option Char :=
  if b == 92 then some '\\' else if b == 39 then some '\'' else if b == 34 then some '"'
  else if b == 98 then some (Char.ofNat 8) else if b == 102 then some (Char.ofNat 12)
  else if b == 116 then some '\t' else if b == 110 then some '\n' else if b == 114 then some '\r'
  else if b == 118 then some (Char.ofNat 11) else if b == 97 then some (Char.ofNat 7)
  else none

/-- Up to two more octal digits after the first: the value and the digits used. -/
def octalTail (first : Nat) : List UInt8 → Nat × Nat
  | a :: b :: _ =>
    if 48 ≤ a.toNat && a.toNat ≤ 55 then
      let v := first * 8 + (a.toNat - 48)
      if 48 ≤ b.toNat && b.toNat ≤ 55 then (v * 8 + (b.toNat - 48), 2) else (v, 1)
    else (first, 0)
  | [a] => if 48 ≤ a.toNat && a.toNat ≤ 55 then (first * 8 + (a.toNat - 48), 1) else (first, 0)
  | [] => (first, 0)

/-- A hex escape of `count` digits (at offset `pos`) whose backslash stood at
`start`: its piece, and the offset and bytes where reading goes on (none at the
end of the input). `range` is the message of a value beyond U+10FFFF. -/
def hexEscape (start count : Nat) (what range : String) (pos : Nat) (rest : List UInt8) :
    Piece × Option (Nat × List UInt8) :=
  match readHex count pos 0 rest with
  | .value n more =>
    if n > 0x10FFFF then (.bad start (pos + count) range, some (pos + count, more))
    else (.char (pointChar n), some (pos + count, more))
  | .missing q true => (.bad start q what, none)
  | .missing q false => (.bad start q what, some (q, rest.drop (q - pos)))

/-- Decodes escaped text. -/
def escapePieces (bs : List UInt8) : List Piece :=
  go bs.length 0 bs
where
  go : Nat → Nat → List UInt8 → List Piece
    | 0, _, _ => []
    | _, _, [] => []
    | fuel + 1, pos, b :: rest =>
      if b != 92 then .char (Char.ofNat b.toNat) :: go fuel (pos + 1) rest
      else match rest with
        | [] => [.bad pos (pos + 1) "\\ at end of string"]
        | c :: more =>
          let n := c.toNat
          if n == 10 then go fuel (pos + 2) more
          else match simpleEscape? n with
            | some e => .char e :: go fuel (pos + 2) more
            | none =>
              if 48 ≤ n && n ≤ 55 then
                let (v, used) := octalTail (n - 48) more
                .char (Char.ofNat v) :: go fuel (pos + 2 + used) (more.drop used)
              else if n == 120 || n == 117 || n == 85 then
                let (count, what) :=
                  if n == 120 then (2, "truncated \\xXX escape")
                  else if n == 117 then (4, "truncated \\uXXXX escape")
                  else (8, "truncated \\UXXXXXXXX escape")
                let (piece, next) := hexEscape pos count what "illegal Unicode character" (pos + 2) more
                piece :: match next with
                  | some (q, r) => go fuel q r
                  | none => []
              else if n == 78 then
                let malformed := "malformed \\N character escape"
                match more with
                | [] => [.bad pos (pos + 2) malformed]
                | 123 :: name =>
                  let len := (name.takeWhile (· != 125)).length
                  if len == name.length then [.bad pos (pos + 3 + len) malformed]
                  else if len == 0 then .bad pos (pos + 3) malformed :: go fuel (pos + 3) name
                  else
                    .bad pos (pos + 4 + len) "unknown Unicode character name" ::
                      go fuel (pos + 4 + len) (name.drop (len + 1))
                | _ => .bad pos (pos + 2) malformed :: go fuel (pos + 2) more
              else .char '\\' :: .char (Char.ofNat n) :: go fuel (pos + 2) more

/-- Decodes raw-escaped text: `\uhhhh` and `\Uhhhhhhhh` after an odd number of
backslashes; every other byte is its own character. -/
def rawEscapePieces (bs : List UInt8) : List Piece :=
  go bs.length 0 bs
where
  go : Nat → Nat → List UInt8 → List Piece
    | 0, _, _ => []
    | _, _, [] => []
    | fuel + 1, pos, b :: rest =>
      if b != 92 then .char (Char.ofNat b.toNat) :: go fuel (pos + 1) rest
      else
        let run := ((b :: rest).takeWhile (· == 92)).length
        let after := rest.drop (run - 1)
        let slashes := List.replicate run (Piece.char '\\')
        match after with
        | u :: digits =>
          if run % 2 == 1 && (u == 117 || u == 85) then
            let count := if u == 117 then 4 else 8
            let what := if u == 117 then "truncated \\uXXXX escape" else "truncated \\UXXXXXXXX escape"
            let start := pos + run - 1
            let p := pos + run + 1
            let (piece, next) := hexEscape start count what "\\Uxxxxxxxx out of range" p digits
            slashes.take (run - 1) ++ piece :: match next with
              | some (q, r) => go fuel q r
              | none => []
          else slashes ++ go fuel (pos + run) after
        | [] => slashes

/-- Encodes text with escapes. -/
def escapeEncode (text : List Char) : List UInt8 :=
  text.flatMap fun c =>
    let n := c.toNat
    if n < 0x100 then
      if 32 ≤ n && n < 127 then (if n == 92 then [92, 92] else [UInt8.ofNat n])
      else if n == 9 then asciiBytes "\\t"
      else if n == 10 then asciiBytes "\\n"
      else if n == 13 then asciiBytes "\\r"
      else asciiBytes "\\x" ++ hexBytes 2 n
    else if n < 0x10000 then asciiBytes "\\u" ++ hexBytes 4 n
    else asciiBytes "\\U" ++ hexBytes 8 n

/-- Encodes text with raw escapes. -/
def rawEscapeEncode (text : List Char) : List UInt8 :=
  text.flatMap fun c =>
    let n := c.toNat
    if n < 0x100 then [UInt8.ofNat n]
    else if n < 0x10000 then asciiBytes "\\u" ++ hexBytes 4 n
    else asciiBytes "\\U" ++ hexBytes 8 n

theorem escapeEncode_letter (c : Char) (h : 'a' ≤ c ∧ c ≤ 'z') :
    escapeEncode [c] = [UInt8.ofNat c.toNat] := by
  obtain ⟨h1, h2⟩ := h
  have h1' : 97 ≤ c.toNat := h1
  have h2' : c.toNat ≤ 122 := h2
  have hs : 32 ≤ c.toNat ∧ c.toNat < 127 := by omega
  have hb : c.toNat ≠ 92 := by omega
  simp [escapeEncode, show c.toNat < 0x100 by omega, hs, hb]

end VCard.Charset
