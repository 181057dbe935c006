import Mathlib
import VCard.Text.Case
/-! Capitals are their own capitals.

`upper` maps each character through the tables of Unicode case mapping: a special
form for the characters that capitalize to several characters, else the image of
the run of code points the character lies on, else the character itself. Writing a
text in capitals twice gives what writing it once gives (`upper_upper`), because no
character the tables map to is itself mapped anywhere: every capital form is left
alone by the tables (`upperChar_fixed`).

That is a fact about the tables, checked once. The code points the tables map
from and the code points they map to are laid out as bit masks, a progression of
code points per run (`progMask`), and the two masks share no bit
(`capitalImages_disjoint`); the lemmas between say what a bit of each mask means
for `runImage` and for the special forms.

Lowering ASCII text needs neither the tables nor the context of a capital sigma:
each character is lowered alone (`lowerAfter_of_ascii`), a capital to the small
letter 32 code points on and anything else to itself (`mem_lowerChar_of_ascii`). -/
namespace VCard.Text

/-! ### Bit masks of code points -/

/-- The mask of the `k` points `start`, `start + step`, `start + 2 * step`, …. -/
def progMask (start step : Nat) : Nat → Nat
  | 0 => 0
  | k + 1 => progMask start step k ||| 2 ^ (start + k * step)

theorem testBit_progMask {start step k m : Nat} :
    (progMask start step k).testBit m = true ↔ ∃ i < k, m = start + i * step := by
  induction k with
  | zero => simp [progMask]
  | succ k ih =>
    simp only [progMask, Nat.testBit_or, Bool.or_eq_true, ih, Nat.testBit_two_pow, decide_eq_true_eq]
    constructor
    · rintro (⟨i, hi, rfl⟩ | h)
      · exact ⟨i, by omega, rfl⟩
      · exact ⟨k, by omega, h.symm⟩
    · rintro ⟨i, hi, rfl⟩
      rcases Nat.lt_succ_iff_lt_or_eq.mp hi with hi | rfl
      · exact .inl ⟨i, hi, rfl⟩
      · exact .inr rfl

/-- The union of the masks of some items. -/
theorem testBit_foldr_or {β : Type} (f : β → Nat) (l : List β) (m : Nat) :
    (l.foldr (fun x acc => f x ||| acc) 0).testBit m = true ↔ ∃ x ∈ l, (f x).testBit m = true := by
  induction l with
  | nil => simp
  | cons x l ih => simp [Nat.testBit_or, ih]

/-- The mask of some code points. -/
def pointsMask (ns : List Nat) : Nat := ns.foldr (fun n acc => 2 ^ n ||| acc) 0

theorem testBit_pointsMask {ns : List Nat} {m : Nat} : (pointsMask ns).testBit m = true ↔ m ∈ ns := by
  rw [pointsMask, testBit_foldr_or]
  simp [Nat.testBit_two_pow, eq_comm]

/-! ### Runs -/

/-- How many code points a run covers. -/
def runCount (r : Nat × Nat × Nat × Int) : Nat := (r.2.1 - r.1) / r.2.2.1 + 1

/-- The code points the runs of a table cover. -/
def domainMask (runs : List (Nat × Nat × Nat × Int)) : Nat :=
  runs.foldr (fun r acc => progMask r.1 r.2.2.1 (runCount r) ||| acc) 0

/-- The code points the runs of a table map to. -/
def imageMask (runs : List (Nat × Nat × Nat × Int)) : Nat :=
  runs.foldr (fun r acc => progMask (r.1 + r.2.2.2).toNat r.2.2.1 (runCount r) ||| acc) 0

/-- A code point a run covers, as `runImage` tests it, is a point of its progression. -/
theorem exists_step_of_onRun {lo hi step n : Nat} (hlo : lo ≤ n) (hhi : n ≤ hi) (hmod : (n - lo) % step = 0) :
    ∃ i < (hi - lo) / step + 1, n = lo + i * step := by
  refine ⟨(n - lo) / step, ?_, ?_⟩
  · have := Nat.div_le_div_right (c := step) (show n - lo ≤ hi - lo by omega)
    omega
  · have := Nat.div_mul_cancel (Nat.dvd_of_mod_eq_zero hmod)
    omega

theorem testBit_domainMask {runs : List (Nat × Nat × Nat × Int)} {r : Nat × Nat × Nat × Int} (hr : r ∈ runs)
    {n : Nat} (hlo : r.1 ≤ n) (hhi : n ≤ r.2.1) (hmod : (n - r.1) % r.2.2.1 = 0) :
    (domainMask runs).testBit n = true :=
  (testBit_foldr_or _ _ _).mpr ⟨r, hr, testBit_progMask.mpr (exists_step_of_onRun hlo hhi hmod)⟩

theorem testBit_imageMask {runs : List (Nat × Nat × Nat × Int)} {r : Nat × Nat × Nat × Int} (hr : r ∈ runs)
    (hpos : 0 ≤ (r.1 : Int) + r.2.2.2) {n : Nat} (hlo : r.1 ≤ n) (hhi : n ≤ r.2.1)
    (hmod : (n - r.1) % r.2.2.1 = 0) : (imageMask runs).testBit ((n : Int) + r.2.2.2).toNat = true := by
  obtain ⟨i, hi, rfl⟩ := exists_step_of_onRun hlo hhi hmod
  refine (testBit_foldr_or _ _ _).mpr ⟨r, hr, testBit_progMask.mpr ⟨i, hi, ?_⟩⟩
  omega

/-- A code point on no run has no image. -/
theorem runImage_eq_none {runs : List (Nat × Nat × Nat × Int)} {n : Nat}
    (h : (domainMask runs).testBit n = false) : runImage runs n = none := by
  rw [runImage, List.findSome?_eq_none_iff]
  rintro ⟨lo, hi, step, delta⟩ hr
  have hoff : ¬(lo ≤ n ∧ n ≤ hi ∧ (n - lo) % step = 0) := by
    rintro ⟨hlo, hhi, hmod⟩
    rw [testBit_domainMask hr hlo hhi hmod] at h
    exact Bool.noConfusion h
  simp only [Bool.and_eq_true, decide_eq_true_eq, beq_iff_eq, ite_eq_right_iff, reduceCtorEq, imp_false]
  exact fun ⟨⟨hlo, hhi⟩, hmod⟩ => hoff ⟨hlo, hhi, hmod⟩

/-- Every image of a run lies in the image mask. -/
theorem testBit_imageMask_of_runImage {runs : List (Nat × Nat × Nat × Int)} {n m : Nat}
    (hpos : ∀ r ∈ runs, 0 ≤ (r.1 : Int) + r.2.2.2) (h : runImage runs n = some m) :
    (imageMask runs).testBit m = true := by
  obtain ⟨⟨lo, hi, step, delta⟩, hr, hsome⟩ := List.exists_of_findSome?_eq_some h
  simp only [Bool.and_eq_true, decide_eq_true_eq, beq_iff_eq, Option.ite_none_right_eq_some,
    Option.some.injEq] at hsome
  obtain ⟨⟨⟨hlo, hhi⟩, hmod⟩, rfl⟩ := hsome
  exact testBit_imageMask hr (hpos _ hr) hlo hhi hmod

/-! ### Special forms -/

theorem find?_special_eq_none {special : List (Nat × List Nat)} {n : Nat}
    (h : (pointsMask (special.map (·.1))).testBit n = false) : special.find? (·.1 == n) = none := by
  rw [List.find?_eq_none]
  intro e he hn
  have : (pointsMask (special.map (·.1))).testBit n = true :=
    testBit_pointsMask.mpr (List.mem_map.mpr ⟨e, he, by simpa using hn⟩)
  rw [this] at h
  exact Bool.noConfusion h

theorem testBit_special_image {special : List (Nat × List Nat)} {n k : Nat} {cs : List Nat}
    (h : special.find? (·.1 == n) = some (k, cs)) {m : Nat} (hm : m ∈ cs) :
    (pointsMask (special.flatMap (·.2))).testBit m = true :=
  testBit_pointsMask.mpr (List.mem_flatMap.mpr ⟨(k, cs), List.mem_of_find?_eq_some h, hm⟩)

/-- What `caseForm` gives: the characters of a special form, the image of a run, or,
on neither, the character itself. -/
theorem mem_caseForm {special : List (Nat × List Nat)} {runs : List (Nat × Nat × Nat × Int)} {c d : Char}
    (h : d ∈ caseForm special runs c) :
    (∃ k cs, special.find? (·.1 == c.toNat) = some (k, cs) ∧ ∃ m ∈ cs, d = Char.ofNat m) ∨
      (∃ m, runImage runs c.toNat = some m ∧ d = Char.ofNat m) ∨ (d = c ∧ caseForm special runs c = [c]) := by
  unfold caseForm at h ⊢
  split at h
  · rename_i k cs hfind
    obtain ⟨m, hm, rfl⟩ := List.mem_map.mp h
    exact .inl ⟨k, cs, hfind, m, hm, rfl⟩
  · split at h
    · rename_i m hrun
      exact .inr (.inl ⟨m, hrun, List.mem_singleton.mp h⟩)
    · exact .inr (.inr ⟨List.mem_singleton.mp h, rfl⟩)

/-! ### The capital tables -/

/-- The code points capitals are made from. -/
def capitalSources : Nat := domainMask upperRuns ||| pointsMask (upperSpecial.map (·.1))

/-- The code points capitals are made of. -/
def capitalImages : Nat := imageMask upperRuns ||| pointsMask (upperSpecial.flatMap (·.2))

/-- No capital is made from anything: the two masks share no bit. -/
theorem capitalImages_disjoint : capitalImages &&& capitalSources = 0 := by
  decide +kernel

theorem upperRuns_image_pos : upperRuns.all (fun r => 0 ≤ (r.1 : Int) + r.2.2.2) = true := by
  decide +kernel

theorem not_source_of_image {m : Nat} (h : capitalImages.testBit m = true) : capitalSources.testBit m = false := by
  have hbit := congrArg (Nat.testBit · m) capitalImages_disjoint
  simp only [Nat.testBit_and, h, Bool.true_and, Nat.zero_testBit] at hbit
  exact hbit

/-- The small ASCII letters are the first run of the table of capitals. -/
theorem smallLetters_mem_upperRuns : ((0x61, 0x7A, 1, -32) : Nat × Nat × Nat × Int) ∈ upperRuns :=
  List.mem_cons_self

/-- A character capitals are not made from is its own capital. -/
theorem upperChar_of_not_source {c : Char} (h : capitalSources.testBit c.toNat = false) : upperChar c = [c] := by
  simp only [capitalSources, Nat.testBit_or, Bool.or_eq_false_iff] at h
  obtain ⟨hrun, hspecial⟩ := h
  unfold upperChar
  by_cases hascii : c.toNat < 0x80
  · -- the small ASCII letters form the first run of the table
    have hsmall : ¬(0x61 ≤ c.toNat ∧ c.toNat ≤ 0x7A) := by
      rintro ⟨hlo, hhi⟩
      have := testBit_domainMask smallLetters_mem_upperRuns hlo hhi (Nat.mod_one _)
      rw [this] at hrun
      exact Bool.noConfusion hrun
    simp [hascii, hsmall]
  · simp only [hascii, if_false, caseForm, find?_special_eq_none hspecial, runImage_eq_none hrun]

theorem upperChar_ofNat_of_image {m : Nat} (h : capitalImages.testBit m = true) :
    upperChar (Char.ofNat m) = [Char.ofNat m] := by
  by_cases hv : m.isValidChar
  · apply upperChar_of_not_source
    have hm : (Char.ofNat m).toNat = m := by
      rw [Char.ofNat, dif_pos hv]
      rfl
    rw [hm]
    exact not_source_of_image h
  · -- an invalid code point gives the character 0, below every letter
    apply upperChar_of_lt
    rw [Char.ofNat, dif_neg hv]
    decide

/-- **Every capital form is its own capital**: each character `upperChar` gives is left
as it is by `upperChar`. -/
theorem upperChar_fixed (c : Char) : ∀ d ∈ upperChar c, upperChar d = [d] := by
  have hpos : ∀ r ∈ upperRuns, 0 ≤ (r.1 : Int) + r.2.2.2 := by
    simpa using upperRuns_image_pos
  unfold upperChar
  by_cases hascii : c.toNat < 0x80
  · by_cases hsmall : 0x61 ≤ c.toNat ∧ c.toNat ≤ 0x7A
    · -- a small ASCII letter is the first run's, and its capital that run's image
      have himage := testBit_imageMask smallLetters_mem_upperRuns (by decide) hsmall.1 hsmall.2
        (Nat.mod_one _)
      have hcap : capitalImages.testBit (c.toNat - 32) = true := by
        have hsub : ((c.toNat : Int) + -32).toNat = c.toNat - 32 := by omega
        simp only [capitalImages, Nat.testBit_or, Bool.or_eq_true]
        exact .inl (hsub ▸ himage)
      simp only [hascii, hsmall, decide_true, Bool.and_self, if_true, List.mem_singleton]
      rintro d rfl
      exact upperChar_ofNat_of_image hcap
    · simp only [hascii, if_true]
      rw [if_neg (by simpa using hsmall)]
      rintro d hd
      rw [List.mem_singleton.mp hd]
      simp [hascii, hsmall]
  · simp only [hascii, if_false]
    intro d hd
    rcases mem_caseForm hd with ⟨k, cs, hfind, m, hm, rfl⟩ | ⟨m, hrun, rfl⟩ | ⟨rfl, hself⟩
    · apply upperChar_ofNat_of_image
      simp only [capitalImages, Nat.testBit_or, Bool.or_eq_true]
      exact .inr (testBit_special_image hfind hm)
    · apply upperChar_ofNat_of_image
      simp only [capitalImages, Nat.testBit_or, Bool.or_eq_true]
      exact .inl (testBit_imageMask_of_runImage hpos hrun)
    · simp only [hascii, if_false, hself]

theorem upperChars_append (xs ys : List Char) : upperChars (xs ++ ys) = upperChars xs ++ upperChars ys := by
  simp [upperChars]

/-- A text of characters that are their own capitals is its own capitals. -/
theorem upperChars_of_fixed {ds : List Char} (h : ∀ d ∈ ds, upperChar d = [d]) : upperChars ds = ds := by
  induction ds with
  | nil => rfl
  | cons d ds ih =>
    rw [show upperChars (d :: ds) = upperChar d ++ upperChars ds from rfl, h d List.mem_cons_self,
      ih fun e he => h e (List.mem_cons_of_mem d he)]
    rfl

theorem upperChars_upperChars (cs : List Char) : upperChars (upperChars cs) = upperChars cs := by
  induction cs with
  | nil => rfl
  | cons c cs ih =>
    rw [show upperChars (c :: cs) = upperChar c ++ upperChars cs from rfl, upperChars_append,
      upperChars_of_fixed (upperChar_fixed c), ih]

/-- Writing a text in capitals twice is writing it in capitals once. -/
theorem upper_upper (s : String) : upper (upper s) = upper s := by
  simp only [upper, String.toList_ofList, upperChars_upperChars]

/-! ### Small letters of ASCII text -/

/-- An ASCII character lowers to itself, or, a capital, to the letter 32 code
points on. -/
theorem mem_lowerChar_of_ascii {c d : Char} (hc : c.toNat < 0x80) (h : d ∈ lowerChar c) :
    d = c ∨ 0x41 ≤ c.toNat ∧ c.toNat ≤ 0x5A ∧ d.toNat = c.toNat + 32 := by
  unfold lowerChar at h
  simp only [hc, if_true] at h
  split at h
  · next hr =>
    simp only [Bool.and_eq_true, decide_eq_true_eq] at hr
    have hv : (c.toNat + 32).isValidChar := by left; omega
    rw [List.mem_singleton.mp h, Char.toNat_ofNat, if_pos hv]
    exact .inr ⟨hr.1, hr.2, rfl⟩
  · exact .inl (List.mem_singleton.mp h)

/-- ASCII text lowers character by character, whatever stands before it. -/
theorem lowerAfter_of_ascii : ∀ (before : List Char) {cs : List Char}, (∀ c ∈ cs, c.toNat < 0x80) →
    lowerAfter before cs = lowerChars cs
  | _, [], _ => rfl
  | before, c :: rest, h => by
    -- no ASCII character is the capital sigma, whose small form depends on its neighbours
    have hc : (c.toNat == 0x3A3) = false := by
      have := h c List.mem_cons_self
      simp only [beq_eq_false_iff_ne, ne_eq]
      omega
    rw [lowerAfter, lowerChars, List.flatMap_cons, ← lowerChars,
      lowerAfter_of_ascii (c :: before) fun d hd => h d (List.mem_cons_of_mem c hd)]
    simp only [hc, Bool.false_eq_true, if_false]

end VCard.Text
