import Mathlib
import VCard.Time.Partial
import VCard.Proofs.Codec.Structured
/-! Numbers written in a fixed number of digits.

Offsets, dates and truncated dates write each unit as a decimal number padded
with zeros to a width (`UtcOffset.pad`, `PartialDate.padInt`). Padding to one
more digit puts the last digit after the padded tens (`UtcOffset.toList_pad_succ`),
so a number that fits is written digit by digit, tens before units
(`UtcOffset.toList_pad_two`, `UtcOffset.toList_pad_four`). In that form every
reader of the time values can be run by `simp`: each digit has its value
(`digitValue?_digitChar_mod`) and is no blank and no separator, taking digits
reads them one at a time (`takeDigits?_succ_digitChar`) and stops at anything
else (`takeDigits?_succ_of_digitValue?`), and the value of the digits read is
the number again, by `omega`. -/
namespace VCard

open Text

theorem toList_pushn (s : String) (c : Char) (n : Nat) :
    (s.pushn c n).toList = s.toList ++ List.replicate n c := by
  induction n with
  | zero => simp [String.pushn_eq_repeat_push, Nat.repeat]
  | succ n ih =>
    simp only [String.pushn_eq_repeat_push, Nat.repeat] at ih ⊢
    rw [String.toList_push, ih, List.replicate_succ', List.append_assoc]

/-- The last digit of a number, as a character, has its value. -/
@[simp] theorem digitValue?_digitChar_mod (k : Nat) : digitValue? (k % 10).digitChar = some (k % 10) := by
  have h : k % 10 < 10 := Nat.mod_lt _ (by decide)
  rw [digitValue?_ascii _ (by simp [Nat.isDigit_digitChar, h]), Nat.toNat_digitChar_sub_48_of_lt_ten h]

@[simp] theorem isBlank_digitChar_mod (k : Nat) : isBlank (k % 10).digitChar = false :=
  isBlank_of_isDigit (by simp [Nat.isDigit_digitChar, Nat.mod_lt])

@[simp] theorem digitChar_mod_ne_backslash (k : Nat) : (k % 10).digitChar ≠ '\\' := by
  intro h
  have hv := digitValue?_digitChar_mod k
  rw [h] at hv
  cases hv

@[simp] theorem digitValue?_dash : digitValue? '-' = none := by decide
@[simp] theorem digitValue?_colon : digitValue? ':' = none := by decide
@[simp] theorem digitValue?_plus : digitValue? '+' = none := by decide

/-- A text holding no blank is its own trimmed form. -/
theorem trim_of_forall {s : String} (h : ∀ c ∈ s.toList, isBlank c = false) : trim s = s := by
  rw [trim, trimChars_of_forall h, String.ofList_toList]

namespace UtcOffset

theorem toList_pad (w n : Nat) :
    (pad w n).toList = List.replicate (w - (Nat.toDigits 10 n).length) '0' ++ Nat.toDigits 10 n := by
  simp [pad, toList_pushn, Nat.repr_eq_ofList_toDigits]

theorem toList_pad_one {n : Nat} (h : n < 10) : (pad 1 n).toList = [(n % 10).digitChar] := by
  rw [toList_pad, Nat.toDigits_of_lt_base h, Nat.mod_eq_of_lt h]
  rfl

/-- One more digit of padding writes the last digit after the tens, padded one
digit less. -/
theorem toList_pad_succ {w : Nat} (hw : 0 < w) (n : Nat) :
    (pad (w + 1) n).toList = (pad w (n / 10)).toList ++ [(n % 10).digitChar] := by
  by_cases h : n < 10
  · -- the tens are zero, written as the padding's last zero
    have hz : (pad w (n / 10)).toList = List.replicate w '0' := by
      rw [Nat.div_eq_of_lt h, toList_pad, Nat.toDigits_zero]
      simp only [List.length_singleton]
      rw [← List.replicate_succ', Nat.sub_add_cancel hw]
    rw [toList_pad, hz, Nat.toDigits_of_lt_base h, Nat.mod_eq_of_lt h]
    simp
  · have hd := Nat.toDigits_of_base_le (b := 10) (n := n) (by decide) (by omega)
    rw [toList_pad, toList_pad, hd, List.length_append, List.length_singleton]
    simp only [List.append_assoc]
    congr 2
    omega

theorem toList_pad_two {n : Nat} (h : n < 100) :
    (pad 2 n).toList = [(n / 10 % 10).digitChar, (n % 10).digitChar] := by
  rw [toList_pad_succ (by decide), toList_pad_one (by omega)]
  rfl

theorem toList_pad_four {n : Nat} (h : n < 10000) :
    (pad 4 n).toList =
      [(n / 1000 % 10).digitChar, (n / 100 % 10).digitChar, (n / 10 % 10).digitChar, (n % 10).digitChar] := by
  rw [toList_pad_succ (by decide), toList_pad_succ (by decide), toList_pad_two (by omega)]
  simp [Nat.div_div_eq_div_mul]

end UtcOffset

@[simp] theorem dropOptional_cons (c d : Char) (r : List Char) :
    dropOptional c (d :: r) = if d = c then r else d :: r := by
  simp [dropOptional]

@[simp] theorem dropOptional_nil (c : Char) : dropOptional c [] = [] := rfl

/-! ### Taking a number of digits -/

theorem foldl_digits (acc : Nat) (ds : List Nat) :
    ds.foldl (fun a d => a * 10 + d) acc = acc * 10 ^ ds.length + digitsValue ds := by
  induction ds generalizing acc with
  | nil => simp [digitsValue]
  | cons d ds ih =>
    simp only [List.foldl_cons, digitsValue, List.length_cons] at ih ⊢
    rw [ih, ih (0 * 10 + d), Nat.pow_succ]
    simp only [Nat.zero_mul, Nat.zero_add, Nat.add_mul, Nat.mul_assoc, Nat.mul_comm 10, Nat.add_assoc]

@[simp] theorem takeDigits?_zero (cs : List Char) : takeDigits? 0 cs = some (0, cs) := by
  simp [takeDigits?, digitsValue]

@[simp] theorem takeDigits?_succ_nil (n : Nat) : takeDigits? (n + 1) [] = none := by
  simp [takeDigits?]

/-- A character that is no digit ends the number before it is complete. -/
@[simp] theorem takeDigits?_succ_of_digitValue? {c : Char} (hc : digitValue? c = none) (n : Nat)
    (r : List Char) : takeDigits? (n + 1) (c :: r) = none := by
  have hle := List.length_filterMap_le digitValue? (r.take n)
  have ht := List.length_take_le n r
  simp only [takeDigits?, List.take_succ_cons, List.filterMap_cons, hc, List.length_cons]
  split
  · next h => simp at h; omega
  · rfl

/-- A digit in front is the leading digit of the number taken. -/
@[simp] theorem takeDigits?_succ_digitChar (n k : Nat) (r : List Char) :
    takeDigits? (n + 1) ((k % 10).digitChar :: r) =
      (takeDigits? n r).map fun (v, r') => (k % 10 * 10 ^ n + v, r') := by
  simp only [takeDigits?, List.take_succ_cons, List.filterMap_cons, digitValue?_digitChar_mod,
    List.length_cons, List.drop_succ_cons]
  by_cases h : (List.filterMap digitValue? (List.take n r)).length = n ∧ (List.take n r).length = n
  · simp only [h, beq_self_eq_true, Bool.and_self, if_true, Option.map_some]
    rw [digitsValue, List.foldl_cons, foldl_digits, h.1]
    simp
  · have h' : ¬ ((List.filterMap digitValue? (List.take n r)).length + 1 == n + 1 &&
        (List.take n r).length + 1 == n + 1) = true := by simpa using h
    have h'' : ¬ ((List.filterMap digitValue? (List.take n r)).length == n &&
        (List.take n r).length == n) = true := by simpa using h
    rw [if_neg h', if_neg h'']
    rfl

theorem PartialDate.padInt_of_nonneg {n : Int} (w : Nat) (h : 0 ≤ n) :
    PartialDate.padInt w n = UtcOffset.pad w n.toNat := by
  simp [PartialDate.padInt, UtcOffset.pad, Int.not_lt.2 h]

end VCard
