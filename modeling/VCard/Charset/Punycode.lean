import VCard.Charset.Fault
/-! Punycode (RFC 3492): Unicode text as letters, digits and hyphens.

The ASCII characters of a text are written first, in order, then a hyphen (only
when there were any), then the other characters: each as a variable-length
number in base 36 telling how far to move, from the place of the last insertion,
to the next place where a character of the next larger code point goes. The
digits `a`..`z`, `0`..`9` stand for 0..35, and how many digits a number takes
depends on a *bias* that adapts after each number.

Reading undoes this: the text up to the last hyphen is the basic text, and each
number after it inserts one character. Leniently read, a text that stops in the
middle of a number ends there, a digit that is not one ends the reading, and a
code point beyond U+10FFFF becomes `?`; strictly read, each of these is an
error. -/
namespace VCard.Charset

/-- The threshold of digit `j` of a number under a bias. -/
def threshold (j bias : Nat) : Nat :=
  let t : Int := 36 * (j + 1 : Nat) - bias
  if t < 1 then 1 else if t > 26 then 26 else t.toNat

/-- The bias after a number: the number, whether it was the first, and how
many characters the text has now. -/
def adaptBias (delta : Nat) (first : Bool) (count : Nat) : Nat :=
  let delta := if first then delta / 700 else delta / 2
  let delta := delta + delta / count
  let rec scale : Nat → Nat → Nat → Nat × Nat
    | 0, d, k => (d, k)
    | fuel + 1, d, k => if d > 455 then scale fuel (d / 35) (k + 36) else (d, k)
  let (d, k) := scale delta delta 0
  k + 36 * d / (d + 38)

/-- The digit letters and numbers. -/
def punyDigits : List Char := "abcdefghijklmnopqrstuvwxyz0123456789".toList

/-- The digit of a value below 36. -/
def punyDigit (n : Nat) : Char := punyDigits.getD n 'a'

/-- The digits of a number under a bias. -/
def encodeNumber (n bias : Nat) : List Char :=
  go (n + 1) n 0
where
  go : Nat → Nat → Nat → List Char
    | 0, _, _ => []
    | fuel + 1, n, j =>
      let t := threshold j bias
      if n < t then [punyDigit n]
      else punyDigit (t + (n - t) % (36 - t)) :: go fuel ((n - t) / (36 - t)) (j + 1)

/-- The indices at which code point `p` stands in a text, each counted over the
characters before it that are below `p` or are `p` itself. -/
def placeIndices (text : List Char) (p : Nat) : List Int :=
  (text.foldl (fun ((i, ps) : Int × List Int) c =>
    if c.toNat == p then (i + 1, ps ++ [i + 1])
    else if c.toNat < p then (i + 1, ps)
    else (i, ps)) (-1, [])).2

/-- The moves that insert the characters of a text at or above U+0080 into its
ASCII characters: for each such code point in increasing order, and each of its
places from left to right, how far the insertion point moves from the last
place, counting every character below the code point once per code point
passed. -/
def insertionMoves (text : List Char) : List Nat :=
  let points := (((text.filter (·.toNat ≥ 128)).map Char.toNat).mergeSort (· ≤ ·)).eraseDups
  let step := fun ((old, last, moves) : Nat × Int × List Nat) (p : Nat) =>
    let below := (text.filter (·.toNat < p)).length
    let start : Int := ((below + 1) * (p - old) : Nat)
    let (last, _, moves) := (placeIndices text p).foldl
      (fun ((last, delta, moves) : Int × Int × List Nat) i =>
        (i, 0, moves ++ [(delta + (i - last) - 1).toNat])) (last, start, moves)
    (p, last, moves)
  (points.foldl step (0x80, -1, [])).2.2

/-- Encodes text as Punycode. -/
def punycodeEncode (text : List Char) : List UInt8 :=
  let basic := text.filter (·.toNat < 128)
  let moves := insertionMoves text
  let digits := (moves.foldl (fun ((points, bias, out) : Nat × Nat × List Char) delta =>
      (points + 1, adaptBias delta (points == 0) (basic.length + points + 1), out ++ encodeNumber delta bias))
    (0, 72, [])).2.2
  let chars := if basic.isEmpty then digits else basic ++ '-' :: digits
  chars.map fun c => UInt8.ofNat c.toNat

/-- The value of an upper-cased Punycode digit. -/
def punyValue? (c : Char) : Option Nat :=
  if 'A' ≤ c && c ≤ 'Z' then some (c.toNat - 65)
  else if '0' ≤ c && c ≤ '9' then some (c.toNat - 22)
  else none

/-- How reading a number went: its value and where the digits after it start;
the end of the reading (lenient); or an error (strict). -/
inductive NumberRead where
  | value (n next : Nat)
  | stop
  | error (message : String)

/-- Reads a number from digit `start` of the upper-cased digits under a bias. -/
def readNumber (lenient : Bool) (digits : List Char) (start bias : Nat) : NumberRead :=
  go (digits.length + 1) start 0 1 0
where
  go : Nat → Nat → Nat → Nat → Nat → NumberRead
    | 0, _, _, _, _ => .stop
    | fuel + 1, pos, acc, w, j =>
      match digits[pos]? with
      | none => if lenient then .stop else .error "incomplete punicode string"
      | some c =>
        match punyValue? c with
        | none => if lenient then .stop else .error ("Invalid extended code point '" ++ c.toString ++ "'")
        | some d =>
          let t := threshold j bias
          let acc := acc + d * w
          if d < t then .value acc (pos + 1)
          else go fuel (pos + 1) acc (w * (36 - t)) (j + 1)

/-- Inserts the characters the numbers of `digits` describe into `base`. -/
def insertAll (lenient : Bool) (base : List Char) (digits : List Char) : Except String (List Char) :=
  go (digits.length + 1) base 0x80 (-1) 72 0
where
  go : Nat → List Char → Nat → Int → Nat → Nat → Except String (List Char)
    | 0, text, _, _, _, _ => .ok text
    | fuel + 1, text, point, pos, bias, index =>
      if index ≥ digits.length then .ok text
      else match readNumber lenient digits index bias with
        | .stop => .ok text
        | .error m => .error m
        | .value delta next =>
          let size := text.length + 1
          let pos := pos + delta + 1
          let point := point + pos.toNat / size
          let slot := pos.toNat % size
          if point > 0x10FFFF && !lenient then .error ("Invalid character U+" ++ String.ofList (Nat.toDigits 16 point))
          else
            let point := if point > 0x10FFFF then 63 else point
            let c := if 0xD800 ≤ point && point < 0xE000 then replacementChar else Char.ofNat point
            let text := text.take slot ++ c :: text.drop slot
            go fuel text point slot (adaptBias delta (index == 0) text.length) next

/-- Decodes Punycode; the basic part is read as ASCII (leniently or strictly),
the rest must be ASCII. -/
def punycodeDecode (lenient : Bool) (bs : List UInt8) : Except DecodeError String :=
  let hyphen := (bs.zipIdx.filter (·.1 == 45)).getLast?.map (·.2)
  let (basic, rest) := match hyphen with
    | some i => (some (bs.take i), bs.drop (i + 1))
    | none => (none, bs)
  let basicText : Except DecodeError (List Char) := match basic with
    | none => .ok []
    | some b =>
      let ps := asciiPieces 0 b
      if lenient then .ok (Piece.lenient ps).toList
      else match Piece.strict "ascii" b ps with
        | .ok s => .ok s.toList
        | .error f => .error (.undecodable f)
  match basicText with
  | .error e => .error e
  | .ok base =>
    match Piece.strict "ascii" rest (asciiPieces 0 rest) with
    | .error f => .error (.undecodable f)
    | .ok ext =>
      let digits := ext.toList.map Char.toUpper
      match insertAll lenient base digits with
      | .ok text => .ok (String.ofList text)
      | .error m => .error (.codec (.plain m))

end VCard.Charset
