import VCard.Charset.Fault
/-! Double-byte character sets of East Asia.

Japanese, Chinese and Korean text is written with one byte for ASCII (and a few
other characters) and two bytes for everything else: a *lead* byte and a
*trail* byte. The coded character sets behind them (JIS X 0208, JIS X 0212,
JIS X 0213, GB 2312 and GBK, KS X 1001 and its unified Hangul extension, Big5)
are tables of rows and cells (`Grid`); an encoding scheme places the rows and
cells on lead and trail bytes (`Layout`): EUC adds 0xA0 to both, Shift_JIS packs
two rows into one lead byte, and the Chinese and Korean sets use the bytes as
they are. Johab composes its Hangul syllables from three five-bit letter codes.

Some schemes have longer forms: EUC-JP writes JIS X 0212 (and EUC-JIS-2004 the
second plane of JIS X 0213) as 0x8F followed by an EUC pair; GB 18030 writes what
GBK lacks as four bytes, two of them digits; EUC-KR spells a Hangul syllable
outside KS X 1001 as eight bytes, the filler 0xA4D4 and three letters.

A codec (`DoubleByte`) is the character of each single byte, its layouts tried
in order, the codes it maps differently from them (`overrides`, including codes
it refuses), the codes of two characters (`pairs`), and its longer form.
Decoding reads a lead byte and its trail; a pair that means nothing is bad by
its first byte only (by both for `wideErrors`), and a lead byte cut off by the
end of the input is bad together with all that follows. Encoding writes the
shortest code of a character; of several codes of one length the first, or the
last where `lastWins`, except for the characters listed in `encodeExceptions`.
A character two of whose codes form a pair (`pairs`) with the next character is
written with the pair's code. A character without a code fails alone, "illegal
multibyte sequence". -/
namespace VCard.Charset

/-- A table of characters by row and cell: rows from `rowFirst`, each of `width`
cells from `cellFirst`, in one array row after row; a blank cell holds none. -/
structure Grid where
  rowFirst : Nat
  cellFirst : Nat
  width : Nat
  cells : Array Char

/-- A grid from the texts of its rows, each `width` characters long. -/
def Grid.ofRows (rowFirst cellFirst width : Nat) (rows : List String) : Grid :=
  ⟨rowFirst, cellFirst, width, (String.join rows).toList.toArray⟩

/-- The character at a row and cell, if there is one. -/
def Grid.get? (g : Grid) (row cell : Nat) : Option Char :=
  if row < g.rowFirst || cell < g.cellFirst || cell ≥ g.cellFirst + g.width then none
  else match g.cells[(row - g.rowFirst) * g.width + (cell - g.cellFirst)]? with
    | some c => if c == ' ' then none else some c
    | none => none

/-- Every row and cell holding a character, in order. -/
def Grid.positions (g : Grid) (c : Char) : List (Nat × Nat) :=
  if c == ' ' then []
  else (g.cells.toList.zipIdx.filter (·.1 == c)).map fun (_, i) =>
    (g.rowFirst + i / g.width, g.cellFirst + i % g.width)

/-! ### Layouts -/

/-- The row and cell of a Shift_JIS pair, rows and cells counted from 1. -/
def shiftJisRowCell (lead trail : Nat) : Option (Nat × Nat) :=
  if !((0x81 ≤ lead && lead ≤ 0x9F) || (0xE0 ≤ lead && lead ≤ 0xEF)) then none
  else if !((0x40 ≤ trail && trail ≤ 0x7E) || (0x80 ≤ trail && trail ≤ 0xFC)) then none
  else
    let c1 := if lead < 0xE0 then lead - 0x81 else lead - 0xC1
    let c2 := if trail < 0x80 then trail - 0x40 else trail - 0x41
    some (2 * c1 + (if c2 ≥ 0x5E then 1 else 0) + 1, (if c2 < 0x5E then c2 else c2 - 0x5E) + 1)

/-- The Shift_JIS pair of a row and cell. -/
def rowCellShiftJis (row cell : Nat) : Nat × Nat :=
  let c1 := (row - 1) / 2
  let c2 := (cell - 1) + (if (row - 1) % 2 == 1 then 0x5E else 0)
  (if c1 < 0x1F then c1 + 0x81 else c1 + 0xC1, if c2 < 0x3F then c2 + 0x40 else c2 + 0x41)

/-- The rows of the second plane of JIS X 0213 that Shift_JIS lead bytes
0xF0..0xFC carry, two per lead byte. -/
def secondPlaneRows : List (Nat × Nat × Nat) :=
  [(0xF0, 1, 8), (0xF1, 3, 4), (0xF2, 5, 12), (0xF3, 13, 14), (0xF4, 15, 78)] ++
    (List.range 8).map fun i => (0xF5 + i, 79 + 2 * i, 80 + 2 * i)

/-- How the pairs of a codec reach a grid. -/
inductive Layout where
  /-- Shift_JIS onto rows and cells. -/
  | shiftJis (g : Grid)
  /-- Shift_JIS of the second plane of JIS X 0213, lead bytes 0xF0..0xFC. -/
  | shiftJisSecond (g : Grid)
  /-- EUC: rows and cells are the bytes less 0xA0. -/
  | euc (g : Grid)
  /-- The bytes themselves, lead and trail within bounds. -/
  | direct (g : Grid) (leadLo leadHi trailLo trailHi : Nat)
  /-- Half-width katakana after 0x8E. -/
  | katakana
  /-- A private-use block: lead bytes 0xF0..0xF9 with Shift_JIS trails, 188 to a lead. -/
  | userArea
  /-- Johab: Hangul by letter codes, and KS X 1001 (in the grid's rows 0xA1..0xFE)
  by lead bytes 0xD9..0xF9. -/
  | johab (g : Grid)

/-- The index tables of Johab's letter codes: initial, medial and final letter of
each five-bit code (none for a code that is no letter, and for the filler the
number 99). -/
def johabInitial : List Nat :=
  [100, 99] ++ List.range 19 ++ List.replicate 11 100

def johabMedial : List Nat :=
  [100, 100, 99, 0, 1, 2, 3, 4, 100, 100, 5, 6, 7, 8, 9, 10, 100, 100, 11, 12, 13, 14, 15, 16,
   100, 100, 17, 18, 19, 20, 100, 100]

def johabFinal : List Nat :=
  [100, 99] ++ (List.range 16).map (· + 1) ++ [100] ++ (List.range 11).map (· + 17) ++ [100, 100]

/-- The compatibility letters (U+3100 plus the number) of the initial, medial and
final letters. -/
def johabInitialLetters : List Nat :=
  [0x31, 0x32, 0x34, 0x37, 0x38, 0x39, 0x41, 0x42, 0x43, 0x45, 0x46, 0x47, 0x48, 0x49, 0x4A, 0x4B,
   0x4C, 0x4D, 0x4E]

def johabMedialLetters : List Nat := (List.range 21).map (· + 0x4F)

def johabFinalLetters : List Nat :=
  [0x31, 0x32, 0x33, 0x34, 0x35, 0x36, 0x37, 0x39, 0x3A, 0x3B, 0x3C, 0x3D, 0x3E, 0x3F, 0x40, 0x41,
   0x42, 0x44, 0x45, 0x46, 0x47, 0x48, 0x4A, 0x4B, 0x4C, 0x4D, 0x4E]

/-- The character of a Johab Hangul pair (lead below 0xD8). -/
def johabHangul (lead trail : Nat) : Option Char :=
  let i := johabInitial.getD (lead / 4 % 32) 100
  let m := johabMedial.getD ((lead * 8 + trail / 32) % 32) 100
  let f := johabFinal.getD (trail % 32) 100
  let letter (table : List Nat) (k : Nat) : Char := Char.ofNat (0x3100 + table.getD k 0)
  if i == 100 || m == 100 || f == 100 then none
  else if i == 99 then
    if m == 99 then
      if f == 99 then some (Char.ofNat 0x3000) else some (letter johabFinalLetters (f - 1))
    else if f == 99 then some (letter johabMedialLetters m) else none
  else if m == 99 then
    if f == 99 then some (letter johabInitialLetters i) else none
  else some (Char.ofNat (0xAC00 + i * 588 + m * 28 + (if f == 99 then 0 else f)))

/-- The KS X 1001 row and cell (from 0x21) of a Johab pair with lead 0xD9..0xF9. -/
def johabSymbolRowCell (lead trail : Nat) : Option (Nat × Nat) :=
  if lead < 0xD9 || lead == 0xDF || lead > 0xF9 || trail < 0x31 || (0x80 ≤ trail && trail < 0x91) ||
      trail % 128 == 0x7F || (lead == 0xDA && 0xA1 ≤ trail && trail ≤ 0xD3) then none
  else
    let t1 := if lead < 0xE0 then 2 * (lead - 0xD9) else 2 * lead - 0x197
    let t2 := if trail < 0x91 then trail - 0x31 else trail - 0x43
    some (t1 + (if t2 < 0x5E then 0 else 1) + 0x21, (if t2 < 0x5E then t2 else t2 - 0x5E) + 0x21)

/-- The character a layout gives a pair, if any. -/
def Layout.get? (l : Layout) (lead trail : Nat) : Option Char :=
  match l with
  | .shiftJis g => (shiftJisRowCell lead trail).bind fun (r, c) => g.get? r c
  | .shiftJisSecond g =>
    match secondPlaneRows.find? (·.1 == lead) with
    | none => none
    | some (_, odd, even) =>
      if !((0x40 ≤ trail && trail ≤ 0x7E) || (0x80 ≤ trail && trail ≤ 0xFC)) then none
      else
        let c2 := if trail < 0x80 then trail - 0x40 else trail - 0x41
        if c2 < 0x5E then g.get? odd (c2 + 1) else g.get? even (c2 - 0x5E + 1)
  | .euc g =>
    if 0xA1 ≤ lead && lead ≤ 0xFE && 0xA1 ≤ trail && trail ≤ 0xFE then g.get? (lead - 0xA0) (trail - 0xA0)
    else none
  | .direct g leadLo leadHi trailLo trailHi =>
    if leadLo ≤ lead && lead ≤ leadHi && trailLo ≤ trail && trail ≤ trailHi then g.get? lead trail else none
  | .katakana => if lead == 0x8E && 0xA1 ≤ trail && trail ≤ 0xDF then some (Char.ofNat (0xFF61 + trail - 0xA1)) else none
  | .userArea =>
    if 0xF0 ≤ lead && lead ≤ 0xF9 && ((0x40 ≤ trail && trail ≤ 0x7E) || (0x80 ≤ trail && trail ≤ 0xFC)) then
      some (Char.ofNat (0xE000 + 188 * (lead - 0xF0) + (if trail < 0x80 then trail - 0x40 else trail - 0x41)))
    else none
  | .johab g =>
    if lead < 0xD8 then johabHangul lead trail
    else match johabSymbolRowCell lead trail with
      | some (r, c) => if 0x21 ≤ r && r ≤ 0x7E then g.get? (r + 0x80) (c + 0x80) else none
      | none => none

/-- The codes (lead * 256 + trail) whose pair a layout may give a character. -/
def Layout.codesOf (l : Layout) (c : Char) : List Nat :=
  match l with
  | .shiftJis g => (g.positions c).filterMap fun (r, k) =>
      let (a, b) := rowCellShiftJis r k
      if (shiftJisRowCell a b).isSome then some (a * 256 + b) else none
  | .shiftJisSecond g => (g.positions c).filterMap fun (r, k) =>
      match secondPlaneRows.find? (fun (_, odd, even) => odd == r || even == r) with
      | some (lead, odd, _) =>
        let c2 := if r == odd then k - 1 else k - 1 + 0x5E
        some (lead * 256 + (if c2 < 0x3F then c2 + 0x40 else c2 + 0x41))
      | none => none
  | .euc g => (g.positions c).map fun (r, k) => (r + 0xA0) * 256 + (k + 0xA0)
  | .direct g .. => (g.positions c).map fun (r, k) => r * 256 + k
  | .katakana =>
    if 0xFF61 ≤ c.toNat && c.toNat ≤ 0xFF9F then [0x8E * 256 + (c.toNat - 0xFF61 + 0xA1)] else []
  | .userArea =>
    if 0xE000 ≤ c.toNat && c.toNat < 0xE000 + 1880 then
      let n := c.toNat - 0xE000
      [(0xF0 + n / 188) * 256 + (if n % 188 < 0x3F then n % 188 + 0x40 else n % 188 + 0x41)]
    else []
  | .johab g =>
    let hangul := if (0x3000 ≤ c.toNat && c.toNat < 0x3200) || (0xAC00 ≤ c.toNat && c.toNat ≤ 0xD7A3) then
        ((List.range (0xD4 - 0x84)).flatMap fun i => (List.range 256).map fun t => (0x84 + i) * 256 + t).filter
          fun code => johabHangul (code / 256) (code % 256) == some c
      else []
    let symbols := ((List.range (0xFA - 0xD9)).flatMap fun i => (List.range 256).map fun t => (0xD9 + i) * 256 + t).filter
      fun code => match johabSymbolRowCell (code / 256) (code % 256) with
        | some (r, k) => 0x21 ≤ r && r ≤ 0x7E && g.get? (r + 0x80) (k + 0x80) == some c
        | none => false
    hangul ++ symbols

/-! ### Longer forms -/

/-- The longer form of a codec. -/
inductive LongForm where
  | none
  /-- 0x8F and an EUC pair of a grid, with some cells changed (row, cell and
  character); on encoding, the rows listed come first. -/
  | third (g : Grid) (preferred : List Nat) (changes : List (Nat × Nat × Char))
  /-- GB 18030's four bytes: ranges of the Basic Multilingual Plane (start of the
  range in the four-byte sequence and its first code point, none for a gap),
  and the other planes in order. -/
  | gbFour (ranges : List (Nat × Option Nat))
  /-- EUC-KR's eight-byte Hangul: the letter bytes of initial, medial and final letters. -/
  | jamo (initial medial final : List (Nat × Nat))

/-- The code point of a four-byte sequence number below 39420, by the ranges. -/
def gbRangePoint (ranges : List (Nat × Option Nat)) (n : Nat) : Option Nat :=
  match (ranges.filter (·.1 ≤ n)).getLast? with
  | some (base, some first) => some (first + (n - base))
  | _ => none

/-- The four-byte sequence number of a code point in the Basic Multilingual Plane. -/
def gbRangeIndex (ranges : List (Nat × Option Nat)) (u : Nat) : Option Nat :=
  let rec go : List (Nat × Option Nat) → Option Nat
    | (base, some first) :: rest =>
      let next := match rest with
        | (b, _) :: _ => b
        | [] => 39420
      if first ≤ u && u < first + (next - base) then some (base + (u - first)) else go rest
    | (_, none) :: rest => go rest
    | [] => none
  go ranges

/-- The four bytes of a sequence number. -/
def gbFourBytes (n : Nat) : List UInt8 :=
  [UInt8.ofNat (n / 12600 + 0x81), UInt8.ofNat (n / 1260 % 10 + 0x30), UInt8.ofNat (n / 10 % 126 + 0x81),
   UInt8.ofNat (n % 10 + 0x30)]

/-! ### Codecs -/

/-- A double-byte codec. -/
structure DoubleByte where
  /-- The name failures give it. -/
  name : String
  /-- The characters of the ASCII bytes that are not themselves. -/
  lowChanges : List (Nat × Char)
  /-- The bytes 0x80..0xFF: a character, U+FFFF for a lead byte, U+FFFE for a bad byte. -/
  high : String
  layouts : List Layout
  /-- Runs of codes mapped otherwise: lead, first trail, and the character of each
  trail in turn (a blank for a code that means nothing). -/
  overrides : List (Nat × Nat × String)
  /-- Codes of two characters. -/
  pairs : List (Nat × String)
  /-- Codes that, meaning nothing, are bad by both bytes. -/
  wideErrors : List Nat
  long : LongForm
  /-- Of several codes of a character, the last is written (else the first). -/
  lastWins : Bool
  /-- Characters encoded otherwise than by their codes: the bytes, or none. -/
  encodeExceptions : List (Nat × List UInt8)

/-- What a single byte is to a codec. -/
inductive ByteRole where
  | char (c : Char)
  | lead
  | bad

/-- The role of a byte. -/
def DoubleByte.role (d : DoubleByte) (b : Nat) : ByteRole :=
  if b < 0x80 then
    match d.lowChanges.find? (·.1 == b) with
    | some (_, c) => .char c
    | none => .char (Char.ofNat b)
  else
    let c := d.high.toList.getD (b - 0x80) (Char.ofNat 0xFFFE)
    if c.toNat == 0xFFFF then .lead else if c.toNat == 0xFFFE then .bad else .char c

/-- The override of a code, if a run covers it: the character, or none for a code
that means nothing. -/
def DoubleByte.override? (d : DoubleByte) (lead trail : Nat) : Option (Option Char) :=
  match d.overrides.find? (fun (l, first, s) => l == lead && first ≤ trail && trail < first + s.length) with
  | some (_, first, s) =>
    let c := s.toList.getD (trail - first) ' '
    some (if c == ' ' then none else some c)
  | none => none

/-- The characters of a pair of bytes, if they mean any. -/
def DoubleByte.pair? (d : DoubleByte) (lead trail : Nat) : Option (List Char) :=
  match d.pairs.find? (·.1 == lead * 256 + trail) with
  | some (_, s) => some s.toList
  | none =>
    match d.override? lead trail with
    | some r => r.map ([·])
    | none => (d.layouts.findSome? (·.get? lead trail)).map ([·])

/-- The pieces of a failed lead byte at `pos`, and how many bytes it spans. -/
def DoubleByte.badPair (d : DoubleByte) (pos lead trail : Nat) : Piece × Nat :=
  let n := if d.wideErrors.contains (lead * 256 + trail) then 2 else 1
  (.bad pos (pos + n) "illegal multibyte sequence", n)

/-- What the longer form of a codec makes of the bytes at a lead byte: none when
the form does not start here; else the characters (or none when they mean
nothing) and the bytes used, or the whole rest when the input ends too soon. -/
inductive LongRead where
  | notHere
  | short
  | read (c : Option Char) (used : Nat)

/-- Reads the longer form at a lead byte. -/
def DoubleByte.readLong (d : DoubleByte) (bs : List UInt8) : LongRead :=
  let byte (i : Nat) : Nat := (bs.getD i 0).toNat
  match d.long, bs with
  | .third g _ changes, b :: _ =>
    if b.toNat != 0x8F then .notHere
    else if bs.length < 3 then .short
    else
      let c2 := byte 1
      let c3 := byte 2
      if 0xA1 ≤ c2 && c2 ≤ 0xFE && 0xA1 ≤ c3 && c3 ≤ 0xFE then
        match changes.find? (fun (r, k, _) => r == c2 - 0xA0 && k == c3 - 0xA0) with
        | some (_, _, c) => .read (some c) 3
        | none => .read (g.get? (c2 - 0xA0) (c3 - 0xA0)) 3
      else .read none 3
  | .gbFour ranges, _ :: t :: _ =>
    if !(0x30 ≤ t.toNat && t.toNat ≤ 0x39) then .notHere
    else if bs.length < 4 then .short
    else
      let (c1, c2, c3, c4) := (byte 0, byte 1, byte 2, byte 3)
      if !(0x81 ≤ c1 && c1 ≤ 0xFE && 0x81 ≤ c3 && c3 ≤ 0xFE && 0x30 ≤ c4 && c4 ≤ 0x39) then .read none 4
      else
        let n := ((c1 - 0x81) * 10 + (c2 - 0x30)) * 1260 + (c3 - 0x81) * 10 + (c4 - 0x30)
        if c1 - 0x81 < 4 then
          if n < 39420 then .read ((gbRangePoint ranges n).map pointChar) 4 else .read none 4
        else if c1 - 0x81 ≥ 15 then
          let u := 0x10000 + n - 15 * 12600
          if u ≤ 0x10FFFF then .read (some (Char.ofNat u)) 4 else .read none 4
        else .read none 4
  | .jamo initial medial final, b :: t :: _ =>
    if b.toNat != 0xA4 || t.toNat != 0xD4 then .notHere
    else if bs.length < 8 then .short
    else if byte 2 != 0xA4 || byte 4 != 0xA4 || byte 6 != 0xA4 then .read none 8
    else
      let i := (initial.find? (·.1 == byte 3)).map (·.2)
      let m := (medial.find? (·.1 == byte 5)).map (·.2)
      let f := if byte 7 == 0xD4 then some 0 else (final.find? (·.1 == byte 7)).map (·.2)
      match i, m, f with
      | some i, some m, some f => .read (some (Char.ofNat (0xAC00 + i * 588 + m * 28 + f))) 8
      | _, _, _ => .read none 8
  | _, _ => .notHere
where
  pointChar (n : Nat) : Char := if 0xD800 ≤ n && n < 0xE000 then replacementChar else Char.ofNat n

/-- Decodes bytes piece by piece. -/
def DoubleByte.pieces (d : DoubleByte) (bs : List UInt8) : List Piece :=
  go bs.length 0 bs
where
  go : Nat → Nat → List UInt8 → List Piece
    | 0, _, _ => []
    | _, _, [] => []
    | fuel + 1, pos, b :: rest =>
      match d.role b.toNat with
      | .char c => .char c :: go fuel (pos + 1) rest
      | .bad => .bad pos (pos + 1) "illegal multibyte sequence" :: go fuel (pos + 1) rest
      | .lead =>
        let incomplete := Piece.bad pos (pos + 1 + rest.length) "incomplete multibyte sequence"
        match d.readLong (b :: rest) with
        | .short => [incomplete]
        | .read (some c) used => .char c :: go fuel (pos + used) (rest.drop (used - 1))
        | .read none _ => .bad pos (pos + 1) "illegal multibyte sequence" :: go fuel (pos + 1) rest
        | .notHere =>
          match rest with
          | [] => [incomplete]
          | t :: more =>
            match d.pair? b.toNat t.toNat with
            | some cs => cs.map Piece.char ++ go fuel (pos + 2) more
            | none =>
              let (piece, n) := d.badPair pos b.toNat t.toNat
              piece :: go fuel (pos + n) (if n == 2 then more else rest)

/-- The bytes of a code. -/
def codeBytes (code : Nat) : List UInt8 := [UInt8.ofNat (code / 256), UInt8.ofNat (code % 256)]

/-- The two-byte codes of a character, in order. -/
def DoubleByte.codesOf (d : DoubleByte) (c : Char) : List Nat :=
  let fromOverrides := d.overrides.flatMap fun (lead, first, s) =>
    (s.toList.zipIdx.filter (·.1 == c)).map fun (_, i) => lead * 256 + first + i
  let fromLayouts := d.layouts.flatMap (·.codesOf c)
  let all := (fromOverrides ++ fromLayouts).filter fun code => d.pair? (code / 256) (code % 256) == some [c]
  (all.mergeSort (· ≤ ·)).eraseDups

/-- The bytes of a character alone, if the codec has any. -/
def DoubleByte.encodeChar (d : DoubleByte) (c : Char) : Option (List UInt8) :=
  match d.encodeExceptions.find? (·.1 == c.toNat) with
  | some (_, bs) => if bs.isEmpty then none else some bs
  | none =>
    let singles := (List.range 256).filter fun b => match d.role b with
      | .char e => e == c
      | _ => false
    match singles.head? with
    | some b => some [UInt8.ofNat b]
    | none =>
      let codes := d.codesOf c
      match (if d.lastWins then codes.getLast? else codes.head?) with
      | some code => some (codeBytes code)
      | none =>
        match d.long with
        | .third g preferred changes =>
          let changed := fun (p : Nat × Nat) => changes.any fun (r, k, _) => r == p.1 && k == p.2
          let ps := ((g.positions c).filter (!changed ·)) ++
            ((changes.filter (·.2.2 == c)).map fun (r, k, _) => (r, k))
          let ps := ps.mergeSort (fun a b => a.1 < b.1 || (a.1 == b.1 && a.2 ≤ b.2))
          let ordered := ps.filter (fun p => preferred.contains p.1) ++ ps.filter (fun p => !preferred.contains p.1)
          ordered.head?.map fun (r, k) => [0x8F, UInt8.ofNat (r + 0xA0), UInt8.ofNat (k + 0xA0)]
        | .gbFour ranges =>
          let u := c.toNat
          if u ≥ 0x10000 then some (gbFourBytes (u - 0x10000 + 15 * 12600))
          else (gbRangeIndex ranges u).map gbFourBytes
        | .jamo initial medial final =>
          let u := c.toNat
          if 0xAC00 ≤ u && u ≤ 0xD7A3 then
            let s := u - 0xAC00
            let byteOf (table : List (Nat × Nat)) (k : Nat) : Option Nat := (table.find? (·.2 == k)).map (·.1)
            match byteOf initial (s / 588), byteOf medial (s % 588 / 28),
                (if s % 28 == 0 then some 0xD4 else byteOf final (s % 28)) with
            | some i, some m, some f => some ([0xA4, 0xD4, 0xA4, i, 0xA4, m, 0xA4, f].map UInt8.ofNat)
            | _, _, _ => none
          else none
        | .none => none

/-- Encodes text: two characters forming a pair are written as the pair's code. -/
def DoubleByte.encode (d : DoubleByte) (text : List Char) : Except EncodeFault (List UInt8) :=
  go text.length 0 text []
where
  go : Nat → Nat → List Char → List UInt8 → Except EncodeFault (List UInt8)
    | 0, _, _, acc => .ok acc
    | _, _, [], acc => .ok acc
    | fuel + 1, pos, c :: rest, acc =>
      let paired := match rest with
        | c2 :: _ => d.pairs.find? (fun (p : Nat × String) => p.2.toList == [c, c2])
        | [] => none
      match paired with
      | some (code, _) => go fuel (pos + 2) (rest.drop 1) (acc ++ codeBytes code)
      | none =>
        match d.encodeChar c with
        | some bs => go fuel (pos + 1) rest (acc ++ bs)
        | none => .error ⟨d.name, text, pos, pos + 1, "illegal multibyte sequence"⟩

example : rowCellShiftJis 1 1 = (0x81, 0x40) := by decide

end VCard.Charset
