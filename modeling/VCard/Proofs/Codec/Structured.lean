import VCard.Codec.Text
import VCard.Codec.Table
import VCard.Proofs.Text.Escape
/-! Structured values read back.

An address, a structured name, a text list, a gender and a client PID map are
written as escaped items joined by commas and semicolons
(`Codec.writeText`), and read by splitting at the separators no backslash
escapes (`Codec.readText`). `readText_writeText` says what comes back, for any
value of such a shape (`Structured`): the value itself up to the
normalisations of `Shape.readBack`. Each item comes back with its line ends as
LF, a list of one empty item as no items, an empty text as none; the sex of a
gender comes back in capitals and a text list in the delimiter of its codec. An
address takes the label the reader finds in the `LABEL` parameter.

The written text holds no line break (`Unbroken`), so that it fits on one
content line in every version. A client PID map writes its PID in decimal,
which reads back as the same integer (`Number.parseInt?_toString`). -/
namespace VCard

/-! ### Integers in decimal -/

namespace Text

theorem trimChars_of_forall {cs : List Char} (h : ∀ c ∈ cs, isBlank c = false) : trimChars cs = cs := by
  have hdrop : ∀ l : List Char, (∀ c ∈ l, isBlank c = false) → l.dropWhile isBlank = l := by
    intro l hl
    cases l with
    | nil => rfl
    | cons c r => exact List.dropWhile_cons_of_neg (by simp [hl c List.mem_cons_self])
  unfold trimChars trimRightChars trimLeftChars
  rw [hdrop cs h, hdrop cs.reverse (by simpa using h), List.reverse_reverse]

theorem isBlank_of_isDigit {c : Char} (h : c.isDigit = true) : isBlank c = false := by
  simp only [Char.isDigit, Bool.and_eq_true, decide_eq_true_eq, UInt32.le_iff_toNat_le] at h
  have h1 : 48 ≤ c.toNat := h.1
  have h2 : c.toNat ≤ 57 := h.2
  simp only [isBlank]
  grind

end Text

namespace Number

open Text

/-- ASCII digits, grouped by nothing, read as their values. -/
theorem digitGroups_ascii : ∀ {cs : List Char}, cs ≠ [] → (∀ c ∈ cs, c.isDigit = true) →
    digitGroups cs = some (cs.map fun c => c.toNat - 0x30)
  | [], h, _ => absurd rfl h
  | [c], _, hd => by simp [digitGroups, digitValue?_ascii c (hd c List.mem_cons_self)]
  | c :: d :: rest, _, hd => by
    have hc := digitValue?_ascii c (hd c List.mem_cons_self)
    have hrest := digitGroups_ascii (List.cons_ne_nil d rest)
      (fun x hx => hd x (List.mem_cons_of_mem _ hx))
    -- a digit is no underscore, so the two digits are not a group break
    have hu : d ≠ '_' := by
      rintro rfl
      exact absurd (hd '_' (by simp)) (by decide)
    rw [digitGroups.eq_4 c d rest hu, hc, hrest]
    rfl

theorem digitsValue_append (ds : List Nat) (d : Nat) : digitsValue (ds ++ [d]) = digitsValue ds * 10 + d := by
  simp [digitsValue, List.foldl_append]

/-- The digits of a number have that number as their value. -/
theorem digitsValue_toDigits (n : Nat) :
    digitsValue ((Nat.toDigits 10 n).map fun c => c.toNat - 0x30) = n := by
  induction n using Nat.strongRecOn with
  | ind n ih =>
    rw [Nat.toDigits_eq_if (by decide)]
    split
    · next h => simp [digitsValue, Nat.toNat_digitChar_sub_48_of_lt_ten h]
    · next h =>
      have hmod : n % 10 < 10 := Nat.mod_lt n (by decide)
      rw [List.map_append, List.map_singleton, Nat.toNat_digitChar_sub_48_of_lt_ten hmod, digitsValue_append,
        ih (n / 10) (by omega)]
      omega

theorem isDigit_of_mem_toDigits {n : Nat} {c : Char} (h : c ∈ Nat.toDigits 10 n) : c.isDigit = true :=
  Nat.isDigit_of_mem_toDigits (by decide) (by decide) h

theorem splitSign_digits {n : Nat} : splitSign (Nat.toDigits 10 n) = (false, Nat.toDigits 10 n) := by
  obtain ⟨c, r, hcr⟩ := List.exists_cons_of_ne_nil (Nat.toDigits_ne_nil (n := n) (b := 10))
  have hc : c.isDigit = true := isDigit_of_mem_toDigits (hcr ▸ List.mem_cons_self)
  have hm : c ≠ '-' := by
    rintro rfl
    exact absurd hc (by decide)
  have hp : c ≠ '+' := by
    rintro rfl
    exact absurd hc (by decide)
  rw [hcr]
  simp [splitSign, hm, hp]

theorem parseNat_toDigits (n : Nat) :
    (digitGroups (Nat.toDigits 10 n)).map (fun ds => (digitsValue ds : Int)) = some (n : Int) := by
  rw [digitGroups_ascii Nat.toDigits_ne_nil fun c hc => isDigit_of_mem_toDigits hc]
  simp [digitsValue_toDigits]

/-- **An integer written in decimal reads back as itself.** -/
theorem parseInt?_toString (n : Int) : parseInt? (toString n) = some n := by
  have hdigits : ∀ m : Nat, ∀ c ∈ Nat.toDigits 10 m, isBlank c = false :=
    fun m c hc => isBlank_of_isDigit (isDigit_of_mem_toDigits hc)
  cases n with
  | ofNat m =>
    have htext : (toString (Int.ofNat m)).toList = Nat.toDigits 10 m := by
      simp [toString, Int.repr, Nat.repr_eq_ofList_toDigits]
    simp only [parseInt?, htext, trimChars_of_forall (hdigits m), splitSign_digits]
    simpa using parseNat_toDigits m
  | negSucc m =>
    have htext : (toString (Int.negSucc m)).toList = '-' :: Nat.toDigits 10 (m + 1) := by
      simp [toString, Int.repr, Nat.repr_eq_ofList_toDigits]
    have hblank : ∀ c ∈ '-' :: Nat.toDigits 10 (m + 1), isBlank c = false := by
      intro c hc
      rcases List.mem_cons.mp hc with rfl | hc
      · decide
      · exact hdigits _ c hc
    simp only [parseInt?, htext, trimChars_of_forall hblank, splitSign]
    have := parseNat_toDigits (m + 1)
    simp only [Option.map_eq_some_iff] at this ⊢
    obtain ⟨ds, hds, hv⟩ := this
    exact ⟨ds, hds, by simp [hv]; omega⟩

/-- A number in decimal is a minus sign or digits, character by character. -/
theorem mem_toString {n : Int} {c : Char} (h : c ∈ (toString n).toList) : c = '-' ∨ c.isDigit = true := by
  cases n with
  | ofNat m =>
    simp only [toString, Int.repr, Nat.repr_eq_ofList_toDigits, String.toList_ofList] at h
    exact .inr (isDigit_of_mem_toDigits h)
  | negSucc m =>
    simp only [toString, Int.repr, Nat.repr_eq_ofList_toDigits, String.toList_append, String.toList_ofList,
      List.mem_append] at h
    rcases h with h | h
    · exact .inl (by simpa using h)
    · exact .inr (isDigit_of_mem_toDigits h)

theorem toString_ne_empty (n : Int) : toString n ≠ "" := by
  cases n <;> simp [toString, Int.repr, Nat.repr_eq_ofList_toDigits]

end Number

namespace Text

/-! ### Items read back -/

/-- An optional text read back: none for the empty text, line ends as LF. -/
def optionBack (x : Option String) : Option String :=
  x.bind fun s => if s = "" then none else some (lineFeeds s)

/-- The component an optional text is written as. -/
def optionComponent (x : Option String) : Component := (x.map .single).getD .absent

theorem single_getD_readBack (x : Option String) :
    (Component.single (x.getD "")).readBack = (optionComponent x).readBack := by
  cases x <;> rfl

/-- The items of a component joined by commas, none when that is empty: how the
reader takes a family or given name, or the URI of a client PID map. -/
def joinedItems (items : List String) : Option String :=
  if (",".intercalate items).isEmpty then none else some (",".intercalate items)

theorem lineFeeds_isEmpty {s : String} (hs : s ≠ "") : (lineFeeds s).isEmpty = false := by
  simpa [String.isEmpty_iff] using (not_congr lineFeeds_eq_empty).mpr hs

/-- The items of an optional text's component, joined by commas, are the text
read back. -/
theorem joinedItems_optionComponent (x : Option String) : joinedItems (optionComponent x).readBack = optionBack x := by
  cases x with
  | none => rfl
  | some s =>
    by_cases hs : s = ""
    · subst hs
      rfl
    · have hback : (optionComponent (some s)).readBack = [lineFeeds s] := by
        simp [optionComponent, Component.readBack, itemsBack, hs]
      rw [hback, joinedItems, String.intercalate_singleton, lineFeeds_isEmpty hs]
      simp [optionBack, hs]

end Text

open Text

namespace Codec

/-! ### Structured values -/

/-- A value written as a list or a structured value by a codec of its shape: the
value's variant is the shape's, a list is delimited by a comma or a semicolon,
and a client PID map has a PID or a URI, without which it is not written. -/
inductive Structured : Shape → Value → Prop
  | address (a : Address) : Structured .address (.address a)
  | name (n : StructuredName) : Structured .structuredName (.name n)
  | textList {d : String} (hd : d = "," ∨ d = ";") (h : Option String) (items : List String) (d' : String) :
      Structured (.textList d h) (.textList items d')
  | gender (sex identity : Option String) : Structured .gender (.gender sex identity)
  | clientPidMap (pid : Option Int) (uri : Option String) (h : pid.isSome ∨ uri.isSome) :
      Structured .clientPidMap (.clientPidMap pid uri)

theorem Structured.shape_of_address {s : Shape} {x : Value} {a : Address} (h : Structured s x)
    (hx : x = .address a) : s = .address := by
  subst hx
  cases h
  rfl

end Codec

/-- What reading gives back of a value written with a structured shape, given
the label the reader finds for an address. -/
def Shape.readBack (label : Option String) : Shape → Value → Value
  | .address, .address a => .address (Address.ofComponents (a.components.map itemsBack) label)
  | .structuredName, .name n =>
    .name ⟨optionBack n.family, optionBack n.given, itemsBack n.additional, itemsBack n.prefixes,
      itemsBack n.suffixes⟩
  | .textList d _, .textList items _ => .textList (itemsBack items) d
  | .gender, .gender sex identity => .gender ((optionBack sex).map upper) (optionBack identity)
  | .clientPidMap, .clientPidMap pid u => .clientPidMap pid (optionBack u)
  | _, x => x

/-- The parameters reading leaves a property of a structured shape: an address's
label is taken out of them. -/
def Shape.readParams (s : Shape) (p : Params) : Params :=
  match s with
  | .address => p.erase "LABEL"
  | _ => p

namespace Codec

/-! ### Reading and writing each shape -/

section Shapes

variable (name : String) (pref : Bool) (t : String) (dt : Option DataType) (v : Version) (p : Params)
  (types : DataType.Registry)

theorem run'_version_bind (f : Version → ReadM Value) :
    (ReadM.version >>= f).run' v p types = (f v).run' v p types := rfl

/-- The sex the reader takes from the components of a gender. -/
def sexOf : List (List String) → Option String
  | (s :: _) :: _ => if s.isEmpty then none else some (upper s)
  | _ => none

/-- The identity the reader takes from the components of a gender. -/
def identityOf : List (List String) → Option String
  | _ :: i :: _ => if i.isEmpty then none else some (",".intercalate i)
  | _ => none

theorem run'_readText_address :
    ((⟨name, .address, pref⟩ : Codec).readText t dt).run' v p types =
      ⟨.value (.address (Address.ofComponents (splitStructured t) (p.getAll "LABEL").head?)), (p.removeAll "LABEL").2,
        types, []⟩ := rfl

theorem run'_readText_name :
    ((⟨name, .structuredName, pref⟩ : Codec).readText t dt).run' v p types =
      ⟨.value (.name ⟨joinedItems ((splitStructured t).getD 0 []), joinedItems ((splitStructured t).getD 1 []),
        (splitStructured t).getD 2 [], (splitStructured t).getD 3 [], (splitStructured t).getD 4 []⟩), p, types, []⟩ :=
  rfl

theorem run'_readText_textList (d : String) (h : Option String) :
    ((⟨name, .textList d h, pref⟩ : Codec).readText t dt).run' v p types =
      ⟨.value (.textList (splitList t d) d), p, types, []⟩ := rfl

theorem run'_readText_gender :
    ((⟨name, .gender, pref⟩ : Codec).readText t dt).run' v p types =
      ⟨.value (.gender (sexOf (splitStructured t)) (identityOf (splitStructured t))), p, types, []⟩ := rfl

theorem run'_readText_clientPidMap {pidPart uriPart : List String} {rest : List (List String)}
    (h : splitStructured t = pidPart :: uriPart :: rest) :
    ((⟨name, .clientPidMap, pref⟩ : Codec).readText t dt).run' v p types =
      (readClientPidMap pidPart uriPart).run' v p types := by
  unfold readText
  rw [run'_version_bind]
  dsimp only
  rw [h]

end Shapes

theorem trim_toString (n : Int) : trim (toString n) = toString n := by
  have hblank : ∀ c ∈ (toString n).toList, isBlank c = false := by
    intro c hc
    rcases Number.mem_toString hc with rfl | hd
    · decide
    · exact isBlank_of_isDigit hd
  rw [trim, trimChars_of_forall hblank, String.ofList_toList]

theorem lineFeeds_toString (n : Int) : lineFeeds (toString n) = toString n := by
  have hcr : '\r' ∉ (toString n).toList := by
    intro hc
    rcases Number.mem_toString hc with h | h
    · exact absurd h (by decide)
    · exact absurd h (by decide)
  rw [lineFeeds, universalLineEnds_of_forall hcr, String.ofList_toList]

/-- The PID component of a client PID map, as the reader splits it off. -/
theorem itemsBack_pid (pid : Option Int) : itemsBack [(pid.map toString).getD ""] = (pid.map toString).toList := by
  cases pid with
  | none => rfl
  | some n =>
    have hne : [toString n] ≠ [""] := by simpa using Number.toString_ne_empty n
    simp only [Option.map_some, Option.getD_some, Option.toList_some, itemsBack, if_neg hne, List.map_cons,
      List.map_nil, lineFeeds_toString]

theorem run'_readClientPidMap (pid : Option Int) (uriPart : List String) (v : Version) (p : Params)
    (types : DataType.Registry) :
    (readClientPidMap (pid.map toString).toList uriPart).run' v p types =
      ⟨.value (.clientPidMap pid (joinedItems uriPart)), p, types, []⟩ := by
  cases pid with
  | none => rfl
  | some n =>
    have htext : trim (",".intercalate [toString n]) = toString n := by
      rw [String.intercalate_singleton, trim_toString]
    have hne : (toString n).isEmpty = false := by simpa using Number.toString_ne_empty n
    simp only [Option.map_some, Option.toList_some, readClientPidMap, htext, hne, Number.parseInt?_toString]
    rfl

theorem sexOf_optionComponent (x : Option String) (rest : List (List String)) :
    sexOf ((optionComponent x).readBack :: rest) = (optionBack x).map upper := by
  cases x with
  | none => rfl
  | some s =>
    by_cases hs : s = ""
    · subst hs
      rfl
    · simp [optionComponent, Component.readBack, itemsBack, hs, sexOf, lineFeeds_isEmpty hs, optionBack]

theorem identityOf_optionComponent (first : List String) (x : Option String) (rest : List (List String)) :
    identityOf (first :: (optionComponent x).readBack :: rest) = optionBack x := by
  cases x with
  | none => rfl
  | some s =>
    by_cases hs : s = ""
    · subst hs
      rfl
    · simp [optionComponent, Component.readBack, itemsBack, hs, identityOf, optionBack]

/-- **Structured values read back.** A value of a structured shape is written as
text with no line break, and that text reads back, whatever data type and
parameters the reader has, as the value normalised by `Shape.readBack`, with the
first `LABEL` parameter as an address's label (which then leaves the
parameters). -/
theorem readText_writeText {c : Codec} {x : Value} (hx : Structured c.shape x) (v : Version) :
    ∃ t, (c.writeText x v).run' = (.ok (.written t), []) ∧ Unbroken t.toList ∧
      ∀ dt p types, (c.readText t dt).run' v p types =
        ⟨.value (c.shape.readBack (p.getAll "LABEL").head? x), c.shape.readParams p, types, []⟩ := by
  obtain ⟨name, shape, pref⟩ := c
  cases hx with
  | address a =>
    refine ⟨_, rfl, unbroken_joinStructured _, fun dt p types => ?_⟩
    rw [run'_readText_address, splitStructured_joinStructured (by simp [Address.components])]
    simp [Shape.readBack, Shape.readParams, Params.erase, Function.comp_def, Component.readBack]
  | name n =>
    refine ⟨joinStructured [optionComponent n.family, optionComponent n.given, .many n.additional,
      .many n.prefixes, .many n.suffixes], rfl, unbroken_joinStructured _, fun dt p types => ?_⟩
    rw [run'_readText_name, splitStructured_joinStructured (by simp)]
    simp only [List.map_cons, List.map_nil, List.getD_cons_zero, List.getD_cons_succ, joinedItems_optionComponent]
    rfl
  | textList hd h items d' =>
    rcases hd with rfl | rfl
    · refine ⟨_, rfl, unbroken_joinList (c := ',') rfl (unbroken_singleton (by decide) (by decide)) items, fun dt p types => ?_⟩
      rw [run'_readText_textList, splitList_joinList (c := ',') rfl (.inl rfl)]
      rfl
    · refine ⟨_, rfl, unbroken_joinList (c := ';') rfl (unbroken_singleton (by decide) (by decide)) items, fun dt p types => ?_⟩
      rw [run'_readText_textList, splitList_joinList (c := ';') rfl (.inr rfl)]
      rfl
  | gender sex identity =>
    cases identity with
    | none =>
      have htext : escape (sex.getD "") = joinStructured [.single (sex.getD "")] := by
        simp [joinStructured_eq, Component.text, String.intercalate_singleton]
      refine ⟨_, rfl, unbroken_escape _, fun dt p types => ?_⟩
      rw [run'_readText_gender, htext, splitStructured_joinStructured (by simp)]
      simp only [List.map_cons, List.map_nil, single_getD_readBack, sexOf_optionComponent]
      rfl
    | some i =>
      refine ⟨joinStructured [optionComponent sex, optionComponent (some i)], rfl, unbroken_joinStructured _,
        fun dt p types => ?_⟩
      rw [run'_readText_gender, splitStructured_joinStructured (by simp)]
      simp only [List.map_cons, List.map_nil, sexOf_optionComponent, identityOf_optionComponent]
      rfl
  | clientPidMap pid u h =>
    -- with a PID or a URI the value is written, not skipped
    have hwritten : (pid.isNone && u.isNone) = false := by
      cases pid <;> cases u <;> simp_all
    refine ⟨joinStructured [.single ((pid.map toString).getD ""), optionComponent u], ?_,
      unbroken_joinStructured _, fun dt p types => ?_⟩
    · simp only [writeText, hwritten]
      rfl
    · have hsplit : splitStructured (joinStructured [.single ((pid.map toString).getD ""), optionComponent u]) =
          (pid.map toString).toList :: (optionComponent u).readBack :: [] := by
        rw [splitStructured_joinStructured (by simp)]
        simp [Component.readBack, itemsBack_pid]
      rw [run'_readText_clientPidMap _ _ _ _ _ _ _ hsplit, run'_readClientPidMap, joinedItems_optionComponent]
      rfl

end Codec

end VCard
