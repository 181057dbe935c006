import VCard.Text.Literal
/-! UTF-8.

Text travels as bytes in quoted-printable values and in `data:` URIs. This
module encodes text as UTF-8 (`encodeUtf8`) and decodes UTF-8 with each maximal
ill-formed subsequence replaced by U+FFFD (`decodeUtf8`).

ASCII text encodes byte for byte (`encodeUtf8Char_ascii`). -/
namespace VCard.Encoding

/-- The UTF-8 bytes of a character. -/
def encodeUtf8Char (c : Char) : List UInt8 :=
  let n := c.toNat
  if n < 0x80 then [UInt8.ofNat n]
  else if n < 0x800 then [UInt8.ofNat (0xC0 + n / 64), UInt8.ofNat (0x80 + n % 64)]
  else if n < 0x10000 then
    [UInt8.ofNat (0xE0 + n / 4096), UInt8.ofNat (0x80 + n / 64 % 64), UInt8.ofNat (0x80 + n % 64)]
  else
    [UInt8.ofNat (0xF0 + n / 262144), UInt8.ofNat (0x80 + n / 4096 % 64),
     UInt8.ofNat (0x80 + n / 64 % 64), UInt8.ofNat (0x80 + n % 64)]

theorem encodeUtf8Char_ascii {c : Char} (h : c.toNat < 0x80) :
    encodeUtf8Char c = [UInt8.ofNat c.toNat] := by
  simp [encodeUtf8Char, h]

/-- The UTF-8 bytes of a text. -/
def encodeUtf8 (s : String) : List UInt8 := s.toList.flatMap encodeUtf8Char

/-- The number of UTF-8 bytes of a character. -/
def utf8Size (c : Char) : Nat := (encodeUtf8Char c).length

/-- The replacement character for undecodable bytes. -/
def replacement : Char := Char.ofNat 0xFFFD

/-- Whether a byte continues a sequence, within the bounds `lo..hi`. -/
def inRange (lo hi : Nat) (b : UInt8) : Bool := lo ≤ b.toNat && b.toNat ≤ hi

/-- The bounds of the second byte after a lead byte, and the number of
continuation bytes; `none` for a byte that starts no sequence. -/
def leadShape (b : Nat) : Option (Nat × Nat × Nat) :=
  if 0xC2 ≤ b && b ≤ 0xDF then some (0x80, 0xBF, 1)
  else if b == 0xE0 then some (0xA0, 0xBF, 2)
  else if b == 0xED then some (0x80, 0x9F, 2)
  else if 0xE1 ≤ b && b ≤ 0xEF then some (0x80, 0xBF, 2)
  else if b == 0xF0 then some (0x90, 0xBF, 3)
  else if 0xF1 ≤ b && b ≤ 0xF3 then some (0x80, 0xBF, 3)
  else if b == 0xF4 then some (0x80, 0x8F, 3)
  else none

/-- The code point of a lead byte's payload and its continuation bytes. -/
def combine (lead : Nat) (count : Nat) (conts : List UInt8) : Nat :=
  let start := if count == 1 then lead % 32 else if count == 2 then lead % 16 else lead % 8
  conts.foldl (fun acc b => acc * 64 + b.toNat % 64) start

/-- How many continuation bytes at the front of `rest` are valid, the first
within `lo..hi` and the others within `0x80..0xBF`. -/
def validPrefix (lo hi : Nat) : Nat → List UInt8 → Nat
  | 0, _ => 0
  | _, [] => 0
  | k + 1, b :: more =>
    if inRange lo hi b then validPrefix 0x80 0xBF k more + 1 else 0

/-- One step of decoding: a character (or `none` for undecodable bytes, which
become U+FFFD) and the number of bytes it took. -/
def decodeStep (b : UInt8) (rest : List UInt8) : Option Char × Nat :=
  if b.toNat < 0x80 then (some (Char.ofNat b.toNat), 1)
  else match leadShape b.toNat with
    | none => (none, 1)
    | some (lo, hi, count) =>
      let good := validPrefix lo hi count rest
      if good == count then (some (Char.ofNat (combine b.toNat count (rest.take count))), count + 1)
      else (none, good + 1)

/-- Decodes UTF-8, each maximal ill-formed subsequence becoming U+FFFD; also
tells whether any byte was replaced. -/
def decodeUtf8Checked (bs : List UInt8) : String × Bool :=
  go bs.length bs [] false
where
  go : Nat → List UInt8 → List Char → Bool → String × Bool
    | 0, _, acc, bad => (String.ofList acc.reverse, bad)
    | _, [], acc, bad => (String.ofList acc.reverse, bad)
    | fuel + 1, b :: rest, acc, bad =>
      let (c, used) := decodeStep b rest
      match c with
      | some c => go fuel (rest.drop (used - 1)) (c :: acc) bad
      | none => go fuel (rest.drop (used - 1)) (replacement :: acc) true

/-- Decodes UTF-8 with replacement characters. -/
def decodeUtf8 (bs : List UInt8) : String := (decodeUtf8Checked bs).1

end VCard.Encoding
