import VCard.Number.Binary
/-! The shortest decimal that reads back as the same double, and its text.

A finite double `m · 2^e` stands for every real that rounds to it: the interval
between the midpoints to its two neighbours, ends included when `m` is even. For
`n = 1, 2, …, 17` digits the decimal grid of `n` significant digits has two points
around the value; the first `n` at which one of them lies in the interval gives
the digits, and of two such points the nearer one wins. Seventeen digits always
suffice, so the search is a fold over a fixed list.

The text then follows `FloatStyle`: positional notation for decimal exponents
from `lowExp` to `highExp`, scientific notation `d.ddde±XX` outside, a `.0` after
an integral positional value, and fixed words for NaN and the infinities. -/
namespace VCard.Number

/-- The interval of reals that round to `m · 2^e`, as the numerators of its ends
over `2^(e-2)`, and whether the ends belong to it. -/
structure Rounding where
  low : Nat
  high : Nat
  exp : Int
  closed : Bool

/-- The rounding interval of a positive finite double. The gap below a power of
two is half the gap above it, except at the smallest exponent. -/
def Rounding.of (m : Nat) (e : Int) : Rounding :=
  { low := if m == Nat.pow 2 52 && e > -1074 then 4 * m - 1 else 4 * m - 2
    high := 4 * m + 2
    exp := e - 2
    closed := m % 2 == 0 }

/-- Whether `c · 10^t` rounds to the double of the interval. -/
def Rounding.contains (r : Rounding) (c : Nat) (t : Int) : Bool :=
  let lo := compareScaled r.low 0 r.exp c t 0
  let hi := compareScaled c t 0 r.high 0 r.exp
  (lo == .lt || (r.closed && lo == .eq)) && (hi == .lt || (r.closed && hi == .eq))

/-- The digits of a positive number, most significant first. -/
def decimalDigits (n : Nat) : List Nat := (Nat.toDigits 10 n).map (fun c => c.toNat - 48)

/-- The candidate of `n` significant digits for the exact decimal `d · 10^k` of
`m · 2^e`: the grid point below or at the value, the one above, and their
exponent. -/
def gridPoints (d : Nat) (k : Int) (n : Nat) : Nat × Option Nat × Int :=
  let len := (decimalDigits d).length
  if n ≥ len then (d * Nat.pow 10 (n - len), none, k - (n - len : Nat))
  else
    let p := Nat.pow 10 (len - n)
    let below := d / p
    (below, if d % p == 0 then none else some (below + 1), k + (len - n : Nat))

/-- The shortest digits, as `c · 10^t`, of the positive double `m · 2^e`. -/
def shortestDigits (m : Nat) (e : Int) : Nat × Int :=
  let r := Rounding.of m e
  let (d, k) := Binary.decimal m e
  let pick (n : Nat) : Option (Nat × Int) :=
    let (below, above, t) := gridPoints d k n
    let belowIn := r.contains below t
    match above with
    | none => if belowIn then some (below, t) else none
    | some a =>
      let aboveIn := r.contains a t
      if belowIn && aboveIn then
        -- The nearer point: compare twice the value with the sum of the two.
        match compareScaled (2 * below + 1) t 0 (2 * m) 0 e with
        | .gt => some (below, t)
        | .lt => some (a, t)
        | .eq => some (if below % 2 == 0 then (below, t) else (a, t))
      else if belowIn then some (below, t)
      else if aboveIn then some (a, t)
      else none
  let found := (List.range 17).findSome? (fun i => pick (i + 1))
  found.getD (d, k)

/-- Digits without trailing zeros, and the exponent adjusted to match. -/
def stripZeros (c : Nat) (t : Int) : List Nat × Int :=
  let ds := decimalDigits c
  let kept := (ds.reverse.dropWhile (· == 0)).reverse
  (kept, t + (ds.length - kept.length : Nat))

/-- How a double is written. -/
structure FloatStyle where
  /-- The smallest decimal point position written positionally. -/
  lowExp : Int
  /-- The largest decimal point position written positionally. -/
  highExp : Int
  /-- Whether an integral positional value ends in `.0`. -/
  pointZero : Bool
  /-- The least number of exponent digits. -/
  expDigits : Nat
  nanText : String
  infText : String

/-- Doubles in messages and in jCard values: positional for point positions from
`-3` to `16`, two exponent digits with a sign, `.0` after integers. -/
def FloatStyle.standard : FloatStyle :=
  { lowExp := -3, highExp := 16, pointZero := true, expDigits := 2,
    nanText := "nan", infText := "inf" }

def digitText (ds : List Nat) : String := String.ofList (ds.map (fun d => Char.ofNat (48 + d)))

/-- The text of `0.ds · 10^point` in a style, without sign. -/
def FloatStyle.layout (st : FloatStyle) (ds : List Nat) (point : Int) : String :=
  if st.lowExp ≤ point && point ≤ st.highExp then
    if point ≤ 0 then "0." ++ "".pushn '0' (-point).toNat ++ digitText ds
    else if point ≥ ds.length then
      digitText ds ++ "".pushn '0' (point.toNat - ds.length) ++ (if st.pointZero then ".0" else "")
    else digitText (ds.take point.toNat) ++ "." ++ digitText (ds.drop point.toNat)
  else
    let e := point - 1
    let expText := toString e.natAbs
    let expText := "".pushn '0' (st.expDigits - expText.length) ++ expText
    let mant := match ds with
      | [] => "0"
      | [d] => digitText [d]
      | d :: rest => digitText [d] ++ "." ++ digitText rest
    mant ++ "e" ++ (if e < 0 then "-" else "+") ++ expText

/-- The text of a double in a style. -/
def FloatStyle.render (st : FloatStyle) (x : Float) : String :=
  match Binary.ofFloat x with
  | .nan => st.nanText
  | .infinite neg => (if neg then "-" else "") ++ st.infText
  | .finite neg m e =>
    let sign := if neg then "-" else ""
    if m == 0 then sign ++ (if st.pointZero then "0.0" else "0")
    else
      let (c, t) := shortestDigits m e
      let (ds, t) := stripZeros c t
      sign ++ st.layout ds (t + ds.length)

/-- The standard text of a double: `1.5`, `1e+20`, `-0.0`, `nan`, `inf`. -/
def floatText (x : Float) : String := FloatStyle.standard.render x

end VCard.Number
