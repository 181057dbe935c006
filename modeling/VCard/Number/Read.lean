import VCard.Number.Binary
import VCard.Text.Blank
import VCard.Text.Case
import VCard.Text.Digit
/-! Reading numbers from text.

A number may be surrounded by blanks and start with `+` or `-`. Its digits may
come from any decimal script and may be grouped by single underscores that stand
between two digits. A real number has an optional fraction after a point and an
optional exponent after `e` or `E`, at least one digit before or after the point,
and may instead be one of the words `inf`, `infinity` or `nan` in any case. The
value of a real is the double nearest to the decimal it denotes
(`Binary.ofDecimal`).

`digitGroups` is the grammar of grouped digits; a single digit is read as its
value (`digitGroups_single`). -/
namespace VCard.Number
open VCard.Text

/-- The values of a run of grouped digits, or `none` when an underscore does not
stand between two digits or a character is no digit. -/
def digitGroups : List Char → Option (List Nat)
  | [] => none
  | [c] => (digitValue? c).map ([·])
  | c :: '_' :: rest =>
    match digitValue? c, digitGroups rest with
    | some v, some vs => some (v :: vs)
    | _, _ => none
  | c :: d :: rest =>
    match digitValue? c, digitGroups (d :: rest) with
    | some v, some vs => some (v :: vs)
    | _, _ => none

/-- Splits off a leading sign. -/
def splitSign : List Char → Bool × List Char
  | '-' :: rest => (true, rest)
  | '+' :: rest => (false, rest)
  | cs => (false, cs)

/-- The integer written in a text, or `none`. -/
def parseInt? (s : String) : Option Int :=
  let (neg, body) := splitSign (trimChars s.toList)
  (digitGroups body).map fun ds =>
    let n : Int := digitsValue ds
    if neg then -n else n

/-- A real number read from text, before rounding. -/
inductive RealText where
  | nan
  | infinite (neg : Bool)
  /-- The value `(-1)^neg · digits · 10^exp`. -/
  | decimal (neg : Bool) (digits : Nat) (exp : Int)
  deriving Repr, DecidableEq

/-- Splits grouped digits from the rest of the text at the first character that is
neither a digit nor an underscore. -/
def spanDigits (cs : List Char) : List Char × List Char :=
  (cs.takeWhile (fun c => c == '_' || isDecimal c), cs.dropWhile (fun c => c == '_' || isDecimal c))

/-- The exponent part after `e` or `E`. -/
def parseExponent? (cs : List Char) : Option Int :=
  let (neg, body) := splitSign cs
  (digitGroups body).map fun ds =>
    let n : Int := digitsValue ds
    if neg then -n else n

/-- Digits before and after the point and the exponent of an unsigned decimal. -/
def parseUnsigned? (cs : List Char) : Option (Nat × Int) :=
  let (intPart, rest) := spanDigits cs
  let (fracPart, rest) := match rest with
    | '.' :: more => spanDigits more
    | _ => ([], rest)
  let exp? : Option Int := match rest with
    | [] => some 0
    | c :: more => if c == 'e' || c == 'E' then parseExponent? more else none
  let intDigits := if intPart.isEmpty then some [] else digitGroups intPart
  let fracDigits := if fracPart.isEmpty then some [] else digitGroups fracPart
  match intDigits, fracDigits, exp? with
  | some i, some f, some e =>
    if i.isEmpty && f.isEmpty then none
    else some (digitsValue (i ++ f), e - f.length)
  | _, _, _ => none

/-- The real number written in a text, or `none`. -/
def parseRealText? (s : String) : Option RealText :=
  let (neg, body) := splitSign (trimChars s.toList)
  let word := String.ofList (lowerChars body)
  if word == "inf" || word == "infinity" then some (.infinite neg)
  else if word == "nan" then some .nan
  else (parseUnsigned? body).map fun (d, e) => .decimal neg d e

/-- The double nearest to a real read from text. -/
def RealText.toFloat : RealText → Float
  | .nan => Binary.assemble false 0x7FF (Nat.pow 2 51)
  | .infinite neg => Binary.assemble neg 0x7FF 0
  | .decimal neg d e => Binary.ofDecimal neg d e

/-- The double written in a text, or `none`. -/
def parseFloat? (s : String) : Option Float := (parseRealText? s).map RealText.toFloat

theorem digitGroups_single (c : Char) (v : Nat) (h : digitValue? c = some v) :
    digitGroups [c] = some [v] := by
  simp [digitGroups, h]

end VCard.Number
