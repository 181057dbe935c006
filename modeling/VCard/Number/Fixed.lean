import VCard.Number.Binary
/-! Doubles with a fixed number of decimal places.

The exact decimal expansion of the double is rounded to the given number of
places, a tie going to the even last digit; the sign of a negative value is kept
even when the rounded digits are all zero. NaN and the infinities are written as
`nan`, `inf` and `-inf`.

`roundPlaces` is the arithmetic core: on an exact value it returns that value
(`roundPlaces_exact`: a count of hundredths read at two places is itself). -/
namespace VCard.Number

/-- `d · 10^k` rounded to an integer count of `10^-places`. -/
def roundPlaces (d : Nat) (k : Int) (places : Nat) : Nat :=
  let shift := k + places
  if shift ≥ 0 then d * Nat.pow 10 shift.toNat
  else Binary.roundDiv d (Nat.pow 10 (-shift).toNat)

theorem roundPlaces_exact (q places : Nat) :
    roundPlaces q (-(places : Int)) places = q := by
  have h : -(places : Int) + places = 0 := by omega
  simp [roundPlaces, h]

/-- The digits of `n` with a decimal point before the last `places` of them. -/
def pointText (n places : Nat) : String :=
  let s := toString n
  let s := "".pushn '0' (places + 1 - s.length) ++ s
  if places == 0 then s
  else
    let cs := s.toList
    String.ofList (cs.take (cs.length - places)) ++ "." ++ String.ofList (cs.drop (cs.length - places))

/-- The text of a double with `places` digits after the point. -/
def fixedText (x : Float) (places : Nat) : String :=
  match Binary.ofFloat x with
  | .nan => "nan"
  | .infinite neg => if neg then "-inf" else "inf"
  | .finite neg m e =>
    let (d, k) := Binary.decimal m e
    (if neg then "-" else "") ++ pointText (roundPlaces d k places) places

/-- Fixed places without trailing zeros or a trailing point: `12.5`, not
`12.500000`; a value that rounds to zero is `0`, without sign. -/
def trimmedFixed (x : Float) (places : Nat) : String :=
  let cs := (fixedText x places).toList
  let cs := (cs.reverse.dropWhile (· == '0')).reverse
  let cs := (cs.reverse.dropWhile (· == '.')).reverse
  let s := String.ofList cs
  if s == "-0" || s == "" then "0" else s

end VCard.Number
