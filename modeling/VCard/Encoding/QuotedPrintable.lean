import VCard.Encoding.Utf8
/-! Quoted-printable (RFC 2045 §6.7) for binary data.

Writing treats the bytes as binary: every byte above `~`, the `=`, carriage
return and line feed, the other controls, a `.` alone at the start of a line and a
blank at the very end are written `=XX` in upper-case hex; a line is broken with a
soft break `=` before it would pass 76 characters. The soft break ends in CR LF
when the data itself holds a CR LF, else in LF alone.

Reading turns `=XX` (hex in either case) into its byte, drops a soft break `=`
before a line end, keeps `==` as one `=`, and keeps any other `=` as it is. -/
namespace VCard.Encoding

def hexDigitUpper (n : Nat) : Char := if n < 10 then Char.ofNat (48 + n) else Char.ofNat (55 + n)

def hexValue? (b : UInt8) : Option Nat :=
  let n := b.toNat
  if 48 ≤ n && n ≤ 57 then some (n - 48)
  else if 65 ≤ n && n ≤ 70 then some (n - 55)
  else if 97 ≤ n && n ≤ 102 then some (n - 87)
  else none

/-- The longest line a writer produces, soft break included. -/
def qpLineLimit : Nat := 76

/-- Whether a byte at a position must be written as `=XX`. -/
def mustQuote (b : UInt8) (atLineStart : Bool) (next : Option UInt8) : Bool :=
  let n := b.toNat
  n > 126 || n == 61 ||
    (n == 46 && atLineStart && (next.isNone || next == some 10 || next == some 13 || next == some 0)) ||
    n == 13 || n == 10 ||
    ((n == 9 || n == 32) && next.isNone) ||
    (n < 33 && n != 9 && n != 32)

/-- Writes bytes as quoted-printable text. -/
def encodeQuotedPrintable (bs : List UInt8) : String :=
  let crlf := match bs.findIdx? (· == 10) with
    | some i => i > 0 && bs[i - 1]? == some 13
    | none => false
  let softBreak : List Char := if crlf then ['=', '\r', '\n'] else ['=', '\n']
  let rec go : List UInt8 → Nat → List Char
    | [], _ => []
    | b :: rest, lineLen =>
      if mustQuote b (lineLen == 0) rest.head? then
        let (pre, lineLen) := if lineLen + 3 ≥ qpLineLimit then (softBreak, 0) else ([], lineLen)
        pre ++ ['=', hexDigitUpper (b.toNat / 16), hexDigitUpper (b.toNat % 16)] ++ go rest (lineLen + 3)
      else
        let (pre, lineLen) :=
          if !rest.isEmpty && rest.head? != some 10 && lineLen + 1 ≥ qpLineLimit then (softBreak, 0)
          else ([], lineLen)
        pre ++ [Char.ofNat b.toNat] ++ go rest (lineLen + 1)
  String.ofList (go bs 0)

theorem length_dropWhile_le {α : Type} (p : α → Bool) (l : List α) :
    (l.dropWhile p).length ≤ l.length := by
  induction l with
  | nil => simp
  | cons a t ih =>
    simp only [List.dropWhile_cons]
    split
    · simp only [List.length_cons]
      omega
    · simp

/-- Reads quoted-printable bytes. -/
def decodeQuotedPrintable : List UInt8 → List UInt8
  | [] => []
  | 61 :: rest =>
    match rest with
    | [] => []
    | 10 :: more => decodeQuotedPrintable more
    | 13 :: more =>
      let afterCr := more.dropWhile (· != 10)
      decodeQuotedPrintable (afterCr.drop 1)
    | 61 :: more => 61 :: decodeQuotedPrintable more
    | a :: b :: more =>
      match hexValue? a, hexValue? b with
      | some x, some y => UInt8.ofNat (x * 16 + y) :: decodeQuotedPrintable more
      | _, _ => 61 :: decodeQuotedPrintable (a :: b :: more)
    | [a] => 61 :: decodeQuotedPrintable [a]
  | b :: rest => b :: decodeQuotedPrintable rest
termination_by bs => bs.length
decreasing_by
  all_goals simp_all
  all_goals (try omega)
  · have := length_dropWhile_le (· != (10 : UInt8)) more
    omega

end VCard.Encoding
