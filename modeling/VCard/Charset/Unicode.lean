import VCard.Charset.Registry
import VCard.Charset.Fault
import VCard.Encoding.Utf8
/-! The Unicode encoding forms: UTF-8, UTF-16, UTF-32 and UTF-7.

UTF-16 and UTF-32 come in a fixed byte order, or with the order chosen by a byte
order mark: decoding skips a leading mark and reads little-endian without one;
encoding writes a little-endian mark first. A UTF-16 surrogate that is not one
half of a pair does not decode; neither does a UTF-32 unit that is a surrogate
or lies beyond U+10FFFF, nor bytes left over at the end.

UTF-7 (RFC 2152) writes ASCII as itself, except `+` (written `+-`) and the
characters that must be escaped (controls other than tab, line feed and
carriage return, `\`, `~`), and writes everything else as base64 runs of UTF-16
between `+` and an optional `-`. Decoding is lenient about which characters are
escaped; a run that ends in the middle of a unit, or with bits left over that
are not zero, does not decode. -/
namespace VCard.Charset

/-! ### UTF-8 -/

/-- Decodes UTF-8 piece by piece from offset `pos`; each maximal ill-formed
subsequence is one bad run. -/
def utf8Pieces (bs : List UInt8) : List Piece :=
  go bs.length 0 bs
where
  go : Nat → Nat → List UInt8 → List Piece
    | 0, _, _ => []
    | _, _, [] => []
    | fuel + 1, pos, b :: rest =>
      let (c, used) := Encoding.decodeStep b rest
      match c with
      | some c => .char c :: go fuel (pos + used) (rest.drop (used - 1))
      | none =>
        let reason :=
          if (Encoding.leadShape b.toNat).isNone then "invalid start byte"
          else if used - 1 == rest.length then "unexpected end of data"
          else "invalid continuation byte"
        .bad pos (pos + used) reason :: go fuel (pos + used) (rest.drop (used - 1))

/-- The UTF-8 byte order mark. -/
def utf8Mark : List UInt8 := [0xEF, 0xBB, 0xBF]

/-! ### UTF-16 and UTF-32 -/

/-- The bytes of a code unit of `width` bytes in a byte order. -/
def unitBytes (order : ByteOrder) (width n : Nat) : List UInt8 :=
  let little := (List.range width).map fun i => UInt8.ofNat (n / Nat.pow 256 i % 256)
  match order with
  | .little => little
  | .big => little.reverse

/-- The value of a code unit from its bytes in a byte order. -/
def unitValue (order : ByteOrder) (bs : List UInt8) : Nat :=
  let big := match order with
    | .little => bs.reverse
    | .big => bs
  big.foldl (fun acc b => acc * 256 + b.toNat) 0

/-- Whether a code point is a surrogate. -/
def isSurrogate (n : Nat) : Bool := 0xD800 ≤ n && n < 0xE000

/-- The UTF-16 code units of a character. -/
def utf16Units (c : Char) : List Nat :=
  let n := c.toNat
  if n < 0x10000 then [n]
  else [0xD800 + (n - 0x10000) / 0x400, 0xDC00 + (n - 0x10000) % 0x400]

/-- The codec name of UTF-16 in a byte order, as failures name it. -/
def ByteOrder.utf16Name : ByteOrder → String
  | .little => "utf-16-le"
  | .big => "utf-16-be"

/-- The codec name of UTF-32 in a byte order, as failures name it. -/
def ByteOrder.utf32Name : ByteOrder → String
  | .little => "utf-32-le"
  | .big => "utf-32-be"

/-- Decodes UTF-16 in a byte order from offset `pos`. A high surrogate not
followed by a low one is bad by itself, and the unit after it is read anew. -/
def utf16Pieces (order : ByteOrder) (pos : Nat) (bs : List UInt8) : List Piece :=
  go bs.length pos bs
where
  go : Nat → Nat → List UInt8 → List Piece
    | 0, _, _ => []
    | _, _, [] => []
    | _, pos, [_] => [.bad pos (pos + 1) "truncated data"]
    | fuel + 1, pos, a :: b :: rest =>
      let u := unitValue order [a, b]
      if !isSurrogate u then .char (Char.ofNat u) :: go fuel (pos + 2) rest
      else if 0xDC00 ≤ u then .bad pos (pos + 2) "illegal encoding" :: go fuel (pos + 2) rest
      else match rest with
        | c :: d :: more =>
          let v := unitValue order [c, d]
          if 0xDC00 ≤ v && v < 0xE000 then
            .char (Char.ofNat (0x10000 + (u - 0xD800) * 0x400 + (v - 0xDC00))) :: go fuel (pos + 4) more
          else .bad pos (pos + 2) "illegal UTF-16 surrogate" :: go fuel (pos + 2) rest
        | _ => [.bad pos (pos + 2 + rest.length) "unexpected end of data"]

/-- Decodes UTF-32 in a byte order from offset `pos`. -/
def utf32Pieces (order : ByteOrder) (pos : Nat) (bs : List UInt8) : List Piece :=
  go bs.length pos bs
where
  go : Nat → Nat → List UInt8 → List Piece
    | 0, _, _ => []
    | _, _, [] => []
    | fuel + 1, pos, a :: b :: c :: d :: rest =>
      let u := unitValue order [a, b, c, d]
      if isSurrogate u then
        .bad pos (pos + 4) "code point in surrogate code point range(0xd800, 0xe000)" :: go fuel (pos + 4) rest
      else if 0x110000 ≤ u then .bad pos (pos + 4) "code point not in range(0x110000)" :: go fuel (pos + 4) rest
      else .char (Char.ofNat u) :: go fuel (pos + 4) rest
    | _, pos, rest => [.bad pos (pos + rest.length) "truncated data"]

/-- The byte order a leading mark of `width` bytes chooses, if the bytes start with one. -/
def markOrder (width : Nat) (bs : List UInt8) : Option ByteOrder :=
  if bs.take width == unitBytes .little width 0xFEFF then some .little
  else if bs.take width == unitBytes .big width 0xFEFF then some .big
  else none

/-- Decodes UTF-16 or UTF-32 (`width` 2 or 4): in a fixed order, or in the order
of a leading mark (skipped), little-endian without one; also the codec name. -/
def unicodePieces (width : Nat) (order : Option ByteOrder) (bs : List UInt8) : String × List Piece :=
  let (order, skip) := match order with
    | some o => (o, 0)
    | none =>
      if bs.length < width then (.little, 0)
      else match markOrder width bs with
        | some o => (o, width)
        | none => (.little, 0)
  let rest := bs.drop skip
  if width == 2 then (order.utf16Name, utf16Pieces order skip rest)
  else (order.utf32Name, utf32Pieces order skip rest)

/-- Encodes text as UTF-16 or UTF-32 (`width` 2 or 4), after a little-endian
mark when no order is fixed. -/
def unicodeEncode (width : Nat) (order : Option ByteOrder) (text : List Char) : List UInt8 :=
  let o := order.getD .little
  let units := if width == 2 then text.flatMap utf16Units else text.map Char.toNat
  let body := units.flatMap (unitBytes o width)
  match order with
  | some _ => body
  | none => unitBytes .little width 0xFEFF ++ body

/-! ### UTF-7 -/

/-- The base64 digits. -/
def base64Digits : List Char :=
  "ABCDEFGHIJKLMNOPQRSTUVWXYZabcdefghijklmnopqrstuvwxyz0123456789+/".toList

/-- The value of a base64 digit. -/
def base64Value? (b : Nat) : Option Nat :=
  if 65 ≤ b && b ≤ 90 then some (b - 65)
  else if 97 ≤ b && b ≤ 122 then some (b - 71)
  else if 48 ≤ b && b ≤ 57 then some (b + 4)
  else if b == 43 then some 62
  else if b == 47 then some 63
  else none

/-- The base64 digit of the low six bits of `n`. -/
def base64Digit (n : Nat) : UInt8 := UInt8.ofNat (base64Digits.getD (n % 64) 'A').toNat

/-- Whether UTF-7 writes an ASCII character as itself: all but NUL, `+`, `\`,
`~`, DEL and the controls other than tab, line feed and carriage return. -/
def utf7Direct (c : Char) : Bool :=
  let n := c.toNat
  0 < n && n < 128 && n != 43 && n != 92 && n != 126 && n != 127 &&
    (32 ≤ n || n == 9 || n == 10 || n == 13)

/-- Emits the base64 digits of a UTF-16 unit added to `bits` pending bits
`buffer`: the digits and the bits left pending. -/
def utf7Push (bits buffer unit : Nat) : List UInt8 × Nat × Nat :=
  let total := bits + 16
  let value := buffer * 65536 + unit
  let count := total / 6
  let digits := (List.range count).map fun i => base64Digit (value / Nat.pow 2 (total - 6 * (i + 1)))
  let left := total - 6 * count
  (digits, left, value % Nat.pow 2 left)

/-- Encodes text as UTF-7. -/
def utf7Encode (text : List Char) : List UInt8 :=
  go text false 0 0
where
  flush (bits buffer : Nat) : List UInt8 :=
    if bits > 0 then [base64Digit (buffer * Nat.pow 2 (6 - bits))] else []
  shifted (c : Char) (bits buffer : Nat) : List UInt8 × Nat × Nat :=
    (utf16Units c).foldl (fun (out, bits, buffer) u =>
      let (ds, bits, buffer) := utf7Push bits buffer u
      (out ++ ds, bits, buffer)) ([], bits, buffer)
  go : List Char → Bool → Nat → Nat → List UInt8
    | [], inShift, bits, buffer => flush bits buffer ++ (if inShift then [45] else [])
    | c :: rest, inShift, bits, buffer =>
      if inShift then
        if utf7Direct c then
          let dash := if (base64Value? c.toNat).isSome || c == '-' then [45] else []
          flush bits buffer ++ dash ++ [UInt8.ofNat c.toNat] ++ go rest false 0 0
        else
          let (out, bits, buffer) := shifted c bits buffer
          out ++ go rest true bits buffer
      else if c == '+' then [43, 45] ++ go rest false bits buffer
      else if utf7Direct c then UInt8.ofNat c.toNat :: go rest false bits buffer
      else
        let (out, bits, buffer) := shifted c bits buffer
        43 :: out ++ go rest true bits buffer

/-- The state of UTF-7 decoding inside a base64 run: where the run's `+` stood,
the pending bits and their count, and a high surrogate waiting for its pair. -/
structure Utf7Run where
  start : Nat
  bits : Nat
  buffer : Nat
  high : Option Nat

/-- Decodes UTF-7. A surrogate left without its pair stands as U+FFFD. -/
def utf7Pieces (bs : List UInt8) : List Piece :=
  go (2 * bs.length + 1) 0 bs none
where
  /-- The pieces of a completed unit, given a waiting high surrogate. -/
  completed (high : Option Nat) (u : Nat) : List Piece × Option Nat :=
    match high with
    | some h =>
      if 0xDC00 ≤ u && u < 0xE000 then ([.char (Char.ofNat (0x10000 + (h - 0xD800) * 0x400 + (u - 0xDC00)))], none)
      else if 0xD800 ≤ u && u < 0xDC00 then ([.char replacementChar], some u)
      else ([.char replacementChar, .char (if isSurrogate u then replacementChar else Char.ofNat u)], none)
    | none =>
      if 0xD800 ≤ u && u < 0xDC00 then ([], some u)
      else ([.char (if isSurrogate u then replacementChar else Char.ofNat u)], none)
  go : Nat → Nat → List UInt8 → Option Utf7Run → List Piece
    | 0, _, _, _ => []
    | _, pos, [], some r =>
      if r.high.isSome || r.bits ≥ 6 || (r.bits > 0 && r.buffer != 0) then
        [.bad r.start pos "unterminated shift sequence"]
      else []
    | _, _, [], none => []
    | fuel + 1, pos, b :: rest, some r =>
      match base64Value? b.toNat with
      | some v =>
        let buffer := r.buffer * 64 + v
        let bits := r.bits + 6
        if bits ≥ 16 then
          let u := buffer / Nat.pow 2 (bits - 16)
          let left := bits - 16
          let (out, high) := completed r.high u
          out ++ go fuel (pos + 1) rest (some ⟨r.start, left, buffer % Nat.pow 2 left, high⟩)
        else go fuel (pos + 1) rest (some ⟨r.start, bits, buffer, r.high⟩)
      | none =>
        if r.bits ≥ 6 then .bad r.start (pos + 1) "partial character in shift sequence" :: go fuel (pos + 1) rest none
        else if r.bits > 0 && r.buffer != 0 then
          .bad r.start (pos + 1) "non-zero padding bits in shift sequence" :: go fuel (pos + 1) rest none
        else
          let lone := if r.high.isSome && b.toNat < 128 && b != 43 then [Piece.char replacementChar] else []
          if b == 45 then lone ++ go fuel (pos + 1) rest none
          else lone ++ go fuel pos (b :: rest) none
    | fuel + 1, pos, b :: rest, none =>
      if b == 43 then
        match rest with
        | 45 :: more => .char '+' :: go fuel (pos + 2) more none
        | c :: more =>
          if (base64Value? c.toNat).isNone then .bad pos (pos + 2) "ill-formed sequence" :: go fuel (pos + 2) more none
          else go fuel (pos + 1) rest (some ⟨pos, 0, 0, none⟩)
        | [] => go fuel (pos + 1) rest (some ⟨pos, 0, 0, none⟩)
      else if b.toNat < 128 then .char (Char.ofNat b.toNat) :: go fuel (pos + 1) rest none
      else .bad pos (pos + 1) "unexpected special character" :: go fuel (pos + 1) rest none

theorem utf7Direct_letter (c : Char) (h : 'a' ≤ c ∧ c ≤ 'z') : utf7Direct c = true := by
  obtain ⟨h1, h2⟩ := h
  have h1' : 97 ≤ c.toNat := h1
  have h2' : c.toNat ≤ 122 := h2
  simp only [utf7Direct, Bool.and_eq_true, decide_eq_true_eq, bne_iff_ne, ne_eq, Bool.or_eq_true,
    beq_iff_eq]
  omega

end VCard.Charset
