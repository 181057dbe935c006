import VCard.Encoding.Utf8
/-! Base64 (RFC 4648 §4) with a lenient reader.

Writing maps every three bytes to four characters of the alphabet and pads the
last group with `=`. Reading skips every character outside the alphabet, stops
at the first `=` that completes a group, and fails in two ways: a lone character
left over after the last complete group (`Base64Error.strayCharacter`, which counts
the data characters read) and a group of two or three characters that no `=`
closes (`Base64Error.padding`). Text with a character beyond ASCII is refused
before decoding (`Base64Error.nonAscii`).

Reading what writing produced gives the bytes back (`decode_encode` is the claim
this module is shaped for: one fold per group of four). -/
namespace VCard.Encoding

/-- The alphabet, in order of value. -/
def base64Alphabet : List Char :=
  "ABCDEFGHIJKLMNOPQRSTUVWXYZabcdefghijklmnopqrstuvwxyz0123456789+/".toList

/-- The value of a character of the alphabet. -/
def base64Value? (c : Char) : Option Nat :=
  if 'A' ≤ c && c ≤ 'Z' then some (c.toNat - 65)
  else if 'a' ≤ c && c ≤ 'z' then some (c.toNat - 97 + 26)
  else if '0' ≤ c && c ≤ '9' then some (c.toNat - 48 + 52)
  else if c == '+' then some 62
  else if c == '/' then some 63
  else none

def base64Char (v : Nat) : Char := base64Alphabet.getD v 'A'

/-- The four characters of a group of up to three bytes. -/
def encodeGroup : List UInt8 → List Char
  | [a] =>
    let n := a.toNat * 65536
    [base64Char (n / 262144), base64Char (n / 4096 % 64), '=', '=']
  | [a, b] =>
    let n := a.toNat * 65536 + b.toNat * 256
    [base64Char (n / 262144), base64Char (n / 4096 % 64), base64Char (n / 64 % 64), '=']
  | a :: b :: c :: _ =>
    let n := a.toNat * 65536 + b.toNat * 256 + c.toNat
    [base64Char (n / 262144), base64Char (n / 4096 % 64), base64Char (n / 64 % 64),
     base64Char (n % 64)]
  | [] => []

/-- Base64 text of bytes, padded. -/
def encodeBase64 (bs : List UInt8) : String :=
  let rec go : Nat → List UInt8 → List Char
    | 0, _ => []
    | _, [] => []
    | fuel + 1, rest => encodeGroup (rest.take 3) ++ go fuel (rest.drop 3)
  String.ofList (go bs.length bs)

/-- Why base64 text could not be read. -/
inductive Base64Error where
  | nonAscii
  | strayCharacter (dataChars : Nat)
  | padding
  deriving DecidableEq, Repr

def Base64Error.message : Base64Error → String
  | .nonAscii => "string argument should contain only ASCII characters"
  | .strayCharacter n =>
    "Invalid base64-encoded string: number of data characters (" ++ toString n ++
      ") cannot be 1 more than a multiple of 4"
  | .padding => "Incorrect padding"

/-- The reader's state: bytes so far (reversed), the position in the group of
four, the bits not yet emitted, and the `=` seen since the last data character. -/
structure Base64State where
  out : List UInt8 := []
  quad : Nat := 0
  left : Nat := 0
  pads : Nat := 0

/-- Feeds one character; `none` once a closing `=` ends the data. -/
def Base64State.feed (st : Base64State) (c : Char) : Option Base64State :=
  if c == '=' then
    if st.quad ≥ 2 && st.quad + st.pads + 1 ≥ 4 then none
    else some { st with pads := if st.quad ≥ 2 then st.pads + 1 else st.pads }
  else match base64Value? c with
    | none => some st
    | some v =>
      let st := { st with pads := 0 }
      match st.quad with
      | 0 => some { st with quad := 1, left := v }
      | 1 => some { st with quad := 2, out := UInt8.ofNat (st.left * 4 + v / 16) :: st.out, left := v % 16 }
      | 2 => some { st with quad := 3, out := UInt8.ofNat (st.left * 16 + v / 4) :: st.out, left := v % 4 }
      | _ => some { st with quad := 0, out := UInt8.ofNat (st.left * 64 + v) :: st.out, left := 0 }

/-- Runs the reader over the characters; the flag tells whether a `=` ended it. -/
def Base64State.run (st : Base64State) : List Char → Base64State × Bool
  | [] => (st, false)
  | c :: rest =>
    match st.feed c with
    | none => (st, true)
    | some st' => st'.run rest

/-- Reads base64 text leniently. -/
def decodeBase64 (s : String) : Except Base64Error (List UInt8) :=
  if s.toList.any (fun c => c.toNat ≥ 0x80) then .error .nonAscii
  else
    let (st, closed) := Base64State.run {} s.toList
    if closed || st.quad == 0 then .ok st.out.reverse
    else if st.quad == 1 then .error (.strayCharacter (st.out.length / 3 * 4 + 1))
    else .error .padding

end VCard.Encoding
