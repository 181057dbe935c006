import VCard.Text.Blank
import VCard.Number.Read
import VCard.Html.Names
/-! Character references of HTML (the named ones and `&#…;`).

Decoding follows the HTML rules: a numeric reference names a code point, where
the C1 controls stand for their Windows-1252 characters, surrogates and values
past the last code point give the replacement character, and noncharacters and
other controls give nothing. A named reference is looked up with its `;` when it
has one; failing that, the longest known name at its front is decoded and the
rest kept. Some Latin-1 names are known without the `;`, so `&copy` and `&amp`
decode too. A reference is at most 32 characters after the `&`. -/
namespace VCard.Html

/-- The characters C1 references stand for. -/
def windows1252 : List (Nat × Nat) :=
  [(0x00, 0xFFFD), (0x0D, 0x0D), (0x80, 0x20AC), (0x81, 0x81), (0x82, 0x201A), (0x83, 0x0192),
   (0x84, 0x201E), (0x85, 0x2026), (0x86, 0x2020), (0x87, 0x2021), (0x88, 0x02C6), (0x89, 0x2030),
   (0x8A, 0x0160), (0x8B, 0x2039), (0x8C, 0x0152), (0x8D, 0x8D), (0x8E, 0x017D), (0x8F, 0x8F),
   (0x90, 0x90), (0x91, 0x2018), (0x92, 0x2019), (0x93, 0x201C), (0x94, 0x201D), (0x95, 0x2022),
   (0x96, 0x2013), (0x97, 0x2014), (0x98, 0x02DC), (0x99, 0x2122), (0x9A, 0x0161), (0x9B, 0x203A),
   (0x9C, 0x0153), (0x9D, 0x9D), (0x9E, 0x017E), (0x9F, 0x0178)]

/-- Code points a numeric reference cannot produce. -/
def isDroppedCodePoint (n : Nat) : Bool :=
  (0x1 ≤ n && n ≤ 0x8) || (0xE ≤ n && n ≤ 0x1F) || (0x7F ≤ n && n ≤ 0x9F) ||
    (0xFDD0 ≤ n && n ≤ 0xFDEF) || n == 0xB || (n % 0x10000 ≥ 0xFFFE && n ≤ 0x10FFFF)

/-- The text of a numeric reference's code point. -/
def numericText (n : Nat) : String :=
  match windows1252.find? (·.1 == n) with
  | some (_, c) => (Char.ofNat c).toString
  | none =>
    if (0xD800 ≤ n && n ≤ 0xDFFF) || n > 0x10FFFF then (Char.ofNat 0xFFFD).toString
    else if isDroppedCodePoint n then ""
    else (Char.ofNat n).toString

/-- The text a name stands for: a name with its closing ";" is looked up among
all names, one without it among the names known bare. -/
def lookupName (name : String) : Option String :=
  let one (c : Nat) : String := (Char.ofNat c).toString
  if name.endsWith ";" then
    match name.toList.head? with
    | some c =>
      match (namesStartingWith c).find? (·.1 == name) with
      | some (_, n) => some (one n)
      | none => (pairedNames.find? (·.1 == name)).map fun (_, a, b) => one a ++ one b
    | none => none
  else (bareNames.find? (·.1 == name)).map fun (_, n) => one n

/-- The text of a named reference: the name itself, else its longest known
front part (at least two characters) and the rest. -/
def namedText (name : List Char) : String :=
  match lookupName (String.ofList name) with
  | some t => t
  | none =>
    let lengths := (List.range (name.length - 2)).map (name.length - 1 - ·)
    match lengths.findSome? fun k => (lookupName (String.ofList (name.take k))).map (· ++ String.ofList (name.drop k)) with
    | some t => t
    | none => "&" ++ String.ofList name

def isHexDigit (c : Char) : Bool :=
  c.isDigit || ('a' ≤ c && c ≤ 'f') || ('A' ≤ c && c ≤ 'F')

def hexValue (cs : List Char) : Nat :=
  cs.foldl (fun n c => 16 * n + (if c.isDigit then c.toNat - 48
    else if 'a' ≤ c && c ≤ 'f' then c.toNat - 87 else c.toNat - 55)) 0

def decimalValue (cs : List Char) : Nat := cs.foldl (fun n c => 10 * n + (c.toNat - 48)) 0

/-- Characters that end a reference name. -/
def endsName (c : Char) : Bool := c == '\t' || c == '\n' || c.toNat == 12 || c == ' ' || c == '<' || c == '&' || c == '#' || c == ';'

/-- A reference at the front of the text after an `&`: its decoded text and the
rest, or none when no reference starts there. -/
def reference? (cs : List Char) : Option (String × List Char) :=
  let withSemi (body : List Char) (rest : List Char) : List Char × List Char :=
    match rest with
    | ';' :: more => (body ++ [';'], more)
    | _ => (body, rest)
  match cs with
  | '#' :: 'x' :: more | '#' :: 'X' :: more =>
    let ds := more.takeWhile isHexDigit
    if ds.isEmpty then none
    else
      let rest := match more.drop ds.length with
        | ';' :: r => r
        | r => r
      some (numericText (hexValue ds), rest)
  | '#' :: more =>
    let ds := more.takeWhile Char.isDigit
    if ds.isEmpty then none
    else
      let rest := match more.drop ds.length with
        | ';' :: r => r
        | r => r
      some (numericText (decimalValue ds), rest)
  | _ =>
    let body := (cs.takeWhile (!endsName ·)).take 32
    if body.isEmpty then none
    else
      let (name, rest) := withSemi body (cs.drop body.length)
      some (namedText name, rest)

/-- Decodes the character references of a text; each step takes at least one
character, so the length of the text bounds the steps. -/
def unescapeChars (fuel : Nat) (cs : List Char) : List Char :=
  match fuel, cs with
  | 0, cs => cs
  | _, [] => []
  | fuel + 1, '&' :: rest =>
    match reference? rest with
    | some (text, more) => text.toList ++ unescapeChars fuel more
    | none => '&' :: unescapeChars fuel rest
  | fuel + 1, c :: rest => c :: unescapeChars fuel rest

/-- Decodes the character references of a text. -/
def unescape (s : String) : String := String.ofList (unescapeChars (s.length + 1) s.toList)

end VCard.Html
