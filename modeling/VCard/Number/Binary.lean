/-! Doubles as exact binary and decimal numbers.

A double is NaN, an infinity, or a finite value `±m · 2^e` with a mantissa below
`2^53`. This module takes a double apart (`Binary.ofFloat`), puts one together
from an exact decimal `n · 10^k` with rounding to nearest, ties to even
(`Binary.ofDecimal`), and gives the exact decimal expansion of a finite double
(`Binary.decimal`): a power of two with a negative exponent has a finite decimal
expansion, `2^-j = 5^j · 10^-j`.

All arithmetic is on `Nat` and `Int`, so every statement about the numbers
written or read reduces to integer arithmetic. -/
namespace VCard.Number

/-- A double taken apart. -/
inductive Binary where
  | nan
  | infinite (neg : Bool)
  /-- The value `(-1)^neg · mant · 2^exp`. -/
  | finite (neg : Bool) (mant : Nat) (exp : Int)
  deriving Repr, DecidableEq

namespace Binary

/-- The parts of a double, read from its bits. -/
def ofFloat (x : Float) : Binary :=
  let bits := x.toBits.toNat
  let neg := bits / Nat.pow 2 63 % 2 == 1
  let biased : Nat := bits / Nat.pow 2 52 % Nat.pow 2 11
  let frac : Nat := bits % Nat.pow 2 52
  if biased == 0x7FF then
    if frac == 0 then .infinite neg else .nan
  else if biased == 0 then .finite neg frac (-1074)
  else .finite neg (frac + Nat.pow 2 52) ((biased : Int) - 1075)

/-- The double with the given sign, biased exponent and fraction bits. -/
def assemble (neg : Bool) (biased frac : Nat) : Float :=
  Float.ofBits (UInt64.ofNat ((if neg then Nat.pow 2 63 else 0) + biased * Nat.pow 2 52 + frac))

/-- Division rounded to nearest, a tie going to the even quotient. -/
def roundDiv (num den : Nat) : Nat :=
  let q := num / den
  let r := num % den
  if 2 * r > den then q + 1
  else if 2 * r < den then q
  else if q % 2 == 1 then q + 1 else q

/-- The double nearest to `num / den · 2^shift`, for `num > 0`, where `shift` has
been chosen so that the quotient has 53 bits or the value is subnormal. -/
def nearest (neg : Bool) (num den : Nat) (k : Int) : Float :=
  -- The value is `num / den · 2^k`; the mantissa is that quotient rounded.
  let scaledNum := num * Nat.pow 2 (-k).toNat
  let scaledDen := den * Nat.pow 2 k.toNat
  let m := roundDiv scaledNum scaledDen
  -- Rounding up may carry into a 54th bit.
  let (m, k) := if m ≥ Nat.pow 2 53 then (m / 2, k + 1) else (m, k)
  if k > 971 then assemble neg 0x7FF 0
  else if m < Nat.pow 2 52 then assemble neg 0 m
  else assemble neg (k + 1075).toNat (m - Nat.pow 2 52)

/-- The number of binary digits of a positive number. -/
def bitLength (n : Nat) : Nat := Nat.log2 n + 1

/-- The double nearest to `(-1)^neg · num / den`, for positive `num` and `den`. -/
def ofRatio (neg : Bool) (num den : Nat) : Float :=
  -- First guess: the quotient `num / den · 2^-k` lies in `(2^52, 2^54)`.
  let k0 : Int := (bitLength num : Int) - bitLength den - 53
  let wide := num * Nat.pow 2 (-k0).toNat ≥ Nat.pow 2 53 * (den * Nat.pow 2 k0.toNat)
  -- One step more brings it into `[2^52, 2^53)`; below the smallest normal
  -- exponent the value is subnormal.
  let k := max (if wide then k0 + 1 else k0) (-1074)
  nearest neg num den k

/-- The double nearest to `(-1)^neg · n · 10^k`. Values far outside the range of
doubles go to zero or infinity without computing their digits. -/
def ofDecimal (neg : Bool) (n : Nat) (k : Int) : Float :=
  let zero := assemble neg 0 0
  if n == 0 then zero
  else
    let size := ((Nat.toDigits 10 n).length : Int) + k
    if size > 310 then assemble neg 0x7FF 0
    else if size < -330 then zero
    else if k ≥ 0 then ofRatio neg (n * Nat.pow 10 k.toNat) 1
    else ofRatio neg n (Nat.pow 10 (-k).toNat)

/-- The exact decimal of a finite double's magnitude: `mant · 2^exp = n · 10^k`. -/
def decimal (mant : Nat) (exp : Int) : Nat × Int :=
  if exp ≥ 0 then (mant * Nat.pow 2 exp.toNat, 0)
  else (mant * Nat.pow 5 (-exp).toNat, exp)

/-- The integer part of a finite value, cut toward zero. -/
def truncate : Binary → Option Int
  | finite neg mant exp =>
    let m : Int := if exp ≥ 0 then mant * Nat.pow 2 exp.toNat else mant / Nat.pow 2 (-exp).toNat
    some (if neg then -m else m)
  | _ => none

end Binary

/-- Compares `a · 10^ta · 2^fa` with `b · 10^tb · 2^fb` exactly. -/
def compareScaled (a : Nat) (ta fa : Int) (b : Nat) (tb fb : Int) : Ordering :=
  let t := min ta tb
  let f := min fa fb
  compare (a * Nat.pow 10 (ta - t).toNat * Nat.pow 2 (fa - f).toNat)
    (b * Nat.pow 10 (tb - t).toNat * Nat.pow 2 (fb - f).toNat)

theorem roundDiv_exact (q den : Nat) (h : 0 < den) : Binary.roundDiv (q * den) den = q := by
  simp [Binary.roundDiv, Nat.mul_div_cancel _ h, Nat.mul_mod_left]
  omega

end VCard.Number
