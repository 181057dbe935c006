/-! Decimal digits of every script.

Numbers in contact data may be written with the decimal digits of any script:
Arabic-Indic `١٢`, fullwidth `１２` and so on. Each such script encodes its ten
digits as ten consecutive code points starting at its zero, so the table below
lists the zeros of the Unicode category `Nd` (Unicode 14) and a digit's value is
its distance from the zero of its block.

`digitValue?` agrees with core's `Char.isDigit` on ASCII (`digitValue?_ascii`). -/
namespace VCard.Text

/-- The code points of the digit zero of every decimal script. -/
def decimalZeros : List Nat :=
  [0x30, 0x660, 0x6F0, 0x7C0, 0x966, 0x9E6, 0xA66, 0xAE6, 0xB66, 0xBE6, 0xC66, 0xCE6,
   0xD66, 0xDE6, 0xE50, 0xED0, 0xF20, 0x1040, 0x1090, 0x17E0, 0x1810, 0x1946, 0x19D0,
   0x1A80, 0x1A90, 0x1B50, 0x1BB0, 0x1C40, 0x1C50, 0xA620, 0xA8D0, 0xA900, 0xA9D0,
   0xA9F0, 0xAA50, 0xABF0, 0xFF10, 0x104A0, 0x10D30, 0x11066, 0x110F0, 0x11136,
   0x111D0, 0x112F0, 0x11450, 0x114D0, 0x11650, 0x116C0, 0x11730, 0x118E0, 0x11950,
   0x11C50, 0x11D50, 0x11DA0, 0x16A60, 0x16AC0, 0x16B50, 0x1D7CE, 0x1D7D8, 0x1D7E2,
   0x1D7EC, 0x1D7F6, 0x1E140, 0x1E2F0, 0x1E950, 0x1FBF0]

/-- The value of a decimal digit of any script, or `none`. -/
def digitValue? (c : Char) : Option Nat :=
  let n := c.toNat
  (decimalZeros.find? (fun z => z ≤ n && n < z + 10)).map (n - ·)

/-- Whether a character is a decimal digit of some script. -/
def isDecimal (c : Char) : Bool := (digitValue? c).isSome

/-- The ASCII digit with the same value, so that text in any script reads as ASCII. -/
def asciiDigit (c : Char) : Char :=
  match digitValue? c with
  | some v => Char.ofNat (0x30 + v)
  | none => c

/-- The number that a string of decimal digits denotes, most significant first. -/
def digitsValue (ds : List Nat) : Nat := ds.foldl (fun acc d => acc * 10 + d) 0

theorem digitValue?_ascii (c : Char) (h : c.isDigit = true) :
    digitValue? c = some (c.toNat - 0x30) := by
  simp only [Char.isDigit, Bool.and_eq_true, decide_eq_true_eq] at h
  obtain ⟨h1, h2⟩ := h
  have h1' : 48 ≤ c.toNat := by
    have := h1; simp only [UInt32.le_iff_toNat_le] at this; exact this
  have h2' : c.toNat ≤ 57 := by
    have := h2; simp only [UInt32.le_iff_toNat_le] at this; exact this
  simp only [digitValue?, decimalZeros, List.find?]
  have : (48 ≤ c.toNat && c.toNat < 48 + 10) = true := by simp; omega
  simp [this]

end VCard.Text
