import VCard.Text.Escape
import VCard.Text.Blank
/-! Escaped text reads back.

A text value is escaped (`Text.escapeChars true`) before it is written and
unescaped after it is read; list and structured values are escaped items joined
by commas and semicolons, and split again at the separators no backslash
escapes. This module proves that every such value reads back as written, up to
line ends: `unescapeChars_escapeChars` says unescaping undoes escaping with every
line end as LF, `splitList_joinList` that a list value gives its items back (a
list of one empty item reading as no items), and `splitStructured_joinStructured`
the same of each component of a structured value; `list_and_structured_round_trip`
says both in terms of the items and components themselves.

The splits are proved through `Escaped sep`: text in which every `sep` and every
backslash belongs to an escape pair. Escaping produces it, joining keeps it, and
the splitter walks over it without cutting (`splitUnescapedFrom_escaped`).
Escaped text has no line break left (`Unbroken`), nor has any list or
structured value joined from it. -/
namespace VCard.Text

/-! ### Lists and line ends -/

theorem intercalate_single_cons {α : Type} (c : α) (x : List α) (xs : List (List α)) :
    [c].intercalate (x :: xs) = x ++ xs.flatMap (c :: ·) := by
  induction xs generalizing x with
  | nil => simp
  | cons y ys ih => rw [List.intercalate_cons_cons, ih]; simp

theorem universalLineEnds_cons {c : Char} (r : List Char) (h : c ≠ '\r') :
    universalLineEnds (c :: r) = c :: universalLineEnds r := by
  rw [universalLineEnds.eq_def]
  split <;> simp_all

theorem universalLineEnds_cr {r : List Char} (h : ∀ r', r ≠ '\n' :: r') :
    universalLineEnds ('\r' :: r) = '\n' :: universalLineEnds r := by
  cases r with
  | nil => simp [universalLineEnds]
  | cons d r => simp [universalLineEnds]

theorem universalLineEnds_of_forall : ∀ {cs : List Char}, '\r' ∉ cs → universalLineEnds cs = cs
  | [], _ => rfl
  | c :: r, h => by
    have hc : c ≠ '\r' := fun e => h (e ▸ List.mem_cons_self)
    rw [universalLineEnds_cons _ hc, universalLineEnds_of_forall (fun hr => h (List.mem_cons_of_mem _ hr))]

theorem universalLineEnds_eq_nil {cs : List Char} : universalLineEnds cs = [] ↔ cs = [] := by
  constructor
  · intro h
    fun_induction universalLineEnds cs <;> simp_all
  · rintro rfl
    rfl

/-- Text with its line ends as LF. -/
def lineFeeds (s : String) : String := String.ofList (universalLineEnds s.toList)

theorem lineFeeds_eq_empty {s : String} : lineFeeds s = "" ↔ s = "" := by
  constructor
  · intro h
    have hnil : universalLineEnds s.toList = [] := by simpa [lineFeeds] using congrArg String.toList h
    exact String.toList_eq_nil_iff.mp (universalLineEnds_eq_nil.mp hnil)
  · rintro rfl
    rfl

/-! ### Unescaping -/

theorem unescapeChars_cons {c : Char} (r : List Char) (h : c ≠ '\\') :
    unescapeChars (c :: r) = c :: unescapeChars r := by
  rw [unescapeChars.eq_def]
  split <;> simp_all

/-- Text without a backslash is its own unescaping. -/
theorem unescapeChars_of_forall : ∀ {cs : List Char}, '\\' ∉ cs → unescapeChars cs = cs
  | [], _ => rfl
  | c :: r, h => by
    have hc : c ≠ '\\' := fun e => h (e ▸ List.mem_cons_self)
    rw [unescapeChars_cons _ hc, unescapeChars_of_forall (fun hr => h (List.mem_cons_of_mem _ hr))]

/-- **Unescaping undoes escaping**, each line end read back as LF. -/
theorem unescapeChars_escapeChars (cs : List Char) :
    unescapeChars (escapeChars true cs) = universalLineEnds cs := by
  fun_induction escapeChars true cs with
  | case1 => rfl
  | case2 r ih => simp [unescapeChars, unescapePair, universalLineEnds_cons _ (show '\\' ≠ '\r' by decide), ih]
  | case3 r ih => simp [unescapeChars, unescapePair, universalLineEnds_cons _ (show ',' ≠ '\r' by decide), ih]
  | case4 r ih => simp [unescapeChars, unescapePair, universalLineEnds_cons _ (show ';' ≠ '\r' by decide), ih]
  | case5 r _ ih => simp [unescapeChars, unescapePair, universalLineEnds, ih]
  | case7 r hne _ ih => simp [unescapeChars, unescapePair, universalLineEnds_cr (fun r' e => hne r' e), ih]
  | case9 r _ ih => simp [unescapeChars, unescapePair, universalLineEnds_cons _ (show '\n' ≠ '\r' by decide), ih]
  | case11 c r h1 _ _ _ h5 _ ih => rw [unescapeChars_cons _ h1, universalLineEnds_cons _ h5, ih]
  -- the branches that keep line breaks are not taken
  | case6 r h _ | case10 r h _ => exact absurd rfl h
  | case8 r _ h _ => exact absurd rfl h

theorem escapeChars_eq_nil {cs : List Char} : escapeChars true cs = [] ↔ cs = [] := by
  constructor
  · intro h
    fun_induction escapeChars true cs <;> simp_all
  · rintro rfl
    rfl

/-! ### Escaped text -/

/-- Text in which every backslash and every `sep` belongs to an escape pair. -/
inductive Escaped (sep : Char) : List Char → Prop
  | nil : Escaped sep []
  | pair (c : Char) {r : List Char} : Escaped sep r → Escaped sep ('\\' :: c :: r)
  | char {c : Char} {r : List Char} : c ≠ '\\' → c ≠ sep → Escaped sep r → Escaped sep (c :: r)

theorem Escaped.append {sep : Char} {xs ys : List Char} (hx : Escaped sep xs) (hy : Escaped sep ys) :
    Escaped sep (xs ++ ys) := by
  induction hx with
  | nil => exact hy
  | pair c _ ih => exact .pair c ih
  | char h1 h2 _ ih => exact .char h1 h2 ih

/-- Escaped text is escaped for either separator of a list or a structured value. -/
theorem escaped_escapeChars {sep : Char} (hsep : sep = ',' ∨ sep = ';') (cs : List Char) :
    Escaped sep (escapeChars true cs) := by
  fun_induction escapeChars true cs with
  | case1 => exact .nil
  | case2 r ih | case3 r ih | case4 r ih => exact .pair _ ih
  | case5 r _ ih | case9 r _ ih => exact .pair _ ih
  | case7 r _ _ ih => exact .pair _ ih
  | case11 c r h1 h2 h3 _ _ _ ih =>
    refine .char h1 ?_ ih
    rcases hsep with rfl | rfl
    · exact h2
    · exact h3
  | case6 r h _ | case10 r h _ => exact absurd rfl h
  | case8 r _ h _ => exact absurd rfl h

theorem splitUnescapedFrom_cons {sep c : Char} (r cur : List Char) (h : c ≠ '\\') :
    splitUnescapedFrom sep (c :: r) cur =
      if c == sep then cur.reverse :: splitUnescapedFrom sep r [] else splitUnescapedFrom sep r (c :: cur) := by
  rw [splitUnescapedFrom.eq_def]
  split <;> simp_all

/-- The splitter walks over escaped text without cutting it. -/
theorem splitUnescapedFrom_escaped {sep : Char} {cs : List Char} (h : Escaped sep cs) (rest cur : List Char) :
    splitUnescapedFrom sep (cs ++ rest) cur = splitUnescapedFrom sep rest (cs.reverse ++ cur) := by
  induction h generalizing cur with
  | nil => rfl
  | pair c _ ih =>
    rw [List.cons_append, List.cons_append, splitUnescapedFrom, ih]
    simp
  | char h1 h2 _ ih =>
    rw [List.cons_append, splitUnescapedFrom_cons _ _ h1]
    simp [h2, ih]

/-- Escaped pieces joined by the separator split back into the pieces. -/
theorem splitUnescaped_join {sep : Char} (hsep : sep ≠ '\\') (x : List Char) (xs : List (List Char))
    (hx : Escaped sep x) (hxs : ∀ y ∈ xs, Escaped sep y) :
    splitUnescaped sep (x ++ xs.flatMap (sep :: ·)) = x :: xs := by
  unfold splitUnescaped
  induction xs generalizing x with
  | nil =>
    have hwalk := splitUnescapedFrom_escaped hx [] []
    rw [List.append_nil] at hwalk
    simp [hwalk, splitUnescapedFrom]
  | cons y ys ih =>
    rw [List.flatMap_cons, splitUnescapedFrom_escaped hx, List.append_nil, List.cons_append,
      splitUnescapedFrom_cons _ _ hsep]
    simp only [beq_self_eq_true, if_true, List.reverse_reverse]
    rw [ih y (hxs y List.mem_cons_self) fun z hz => hxs z (List.mem_cons_of_mem _ hz)]

/-! ### List values -/

/-- A list value read back: each item with its line ends as LF, and a list of one
empty item as no items, since both are written as the empty text. -/
def itemsBack (items : List String) : List String :=
  if items = [""] then [] else items.map lineFeeds

section Delimiter

variable {d : String} {c : Char}

theorem joinList_toList (hd : d.toList = [c]) (items : List String) :
    (joinList items d).toList = [c].intercalate (items.map fun s => escapeChars true s.toList) := by
  simp [joinList, escape, String.toList_intercalate, hd, Function.comp_def]

theorem joinList_isEmpty (hd : d.toList = [c]) {items : List String} :
    (joinList items d).isEmpty = true ↔ items = [] ∨ items = [""] := by
  rw [String.isEmpty_iff, ← String.toList_inj, joinList_toList hd]
  cases items with
  | nil => simp
  | cons x xs =>
    rw [List.map_cons, intercalate_single_cons]
    cases xs with
    | nil => simp [escapeChars_eq_nil, String.toList_eq_nil_iff]
    | cons y ys => simp

theorem escaped_joinList {sep : Char} (hsep : sep = ',' ∨ sep = ';') (hd : d.toList = [c]) (hc : c ≠ '\\')
    (hcsep : c ≠ sep) (items : List String) : Escaped sep (joinList items d).toList := by
  rw [joinList_toList hd]
  cases items with
  | nil => exact .nil
  | cons x xs =>
    rw [List.map_cons, intercalate_single_cons]
    refine (escaped_escapeChars hsep _).append ?_
    induction xs with
    | nil => exact .nil
    | cons y ys ih =>
      rw [List.map_cons, List.flatMap_cons]
      exact .char hc hcsep ((escaped_escapeChars hsep _).append ih)

/-- **A list value reads back** as its items, for either delimiter. -/
theorem splitList_joinList (hd : d.toList = [c]) (hc : c = ',' ∨ c = ';') (items : List String) :
    splitList (joinList items d) d = itemsBack items := by
  by_cases hempty : items = [] ∨ items = [""]
  · have hnil := (joinList_isEmpty hd).mpr hempty
    rcases hempty with rfl | rfl <;> simp [splitList, hnil, itemsBack]
  · have hne : (joinList items d).isEmpty = false :=
      Bool.eq_false_iff.mpr fun h => hempty ((joinList_isEmpty hd).mp h)
    obtain ⟨x, xs, rfl⟩ := List.exists_cons_of_ne_nil (fun h => hempty (.inl h))
    have hback : itemsBack (x :: xs) = (x :: xs).map lineFeeds := by
      simp only [itemsBack, if_neg (fun h => hempty (.inr h))]
    have hcb : c ≠ '\\' := by rcases hc with rfl | rfl <;> decide
    simp only [splitList, hne, Bool.false_eq_true, if_false, hd, joinList_toList hd, List.map_cons,
      intercalate_single_cons]
    rw [splitUnescaped_join hcb _ _ (escaped_escapeChars hc _), hback]
    · simp [lineFeeds, unescapeChars_escapeChars]
    · simp only [List.mem_map]
      rintro y ⟨z, -, rfl⟩
      exact escaped_escapeChars hc _

end Delimiter

/-! ### Structured values -/

namespace Component

/-- The written text of a component. -/
def text : Component → String
  | .absent => ""
  | .single s => escape s
  | .many items => joinList items

/-- A component read back: its items, each with its line ends as LF; an absent
or empty component has none. -/
def readBack : Component → List String
  | .absent => []
  | .single s => itemsBack [s]
  | .many items => itemsBack items

theorem escaped_text (c : Component) : Escaped ';' c.text.toList := by
  cases c with
  | absent => exact .nil
  | single s =>
    simp only [text, escape, String.toList_ofList]
    exact escaped_escapeChars (.inr rfl) _
  | many items => exact escaped_joinList (.inr rfl) (c := ',') rfl (by decide) (by decide) items

theorem splitList_text (c : Component) : splitList c.text = c.readBack := by
  cases c with
  | absent => rfl
  | single s =>
    have hjoin : joinList [s] = escape s := by simp [joinList]
    simp only [text, readBack, ← hjoin]
    exact splitList_joinList (c := ',') rfl (.inl rfl) [s]
  | many items => exact splitList_joinList (c := ',') rfl (.inl rfl) items

end Component

theorem joinStructured_eq (cs : List Component) : joinStructured cs = ";".intercalate (cs.map Component.text) := rfl

/-- **A structured value reads back** component by component. -/
theorem splitStructured_joinStructured {cs : List Component} (h : cs ≠ []) :
    splitStructured (joinStructured cs) = cs.map Component.readBack := by
  obtain ⟨c, cs, rfl⟩ := List.exists_cons_of_ne_nil h
  have hsplit : (joinStructured (c :: cs)).toList =
      c.text.toList ++ (cs.map fun x => x.text.toList).flatMap (';' :: ·) := by
    rw [joinStructured_eq, String.toList_intercalate, List.map_map, List.map_cons]
    exact intercalate_single_cons ';' _ _
  unfold splitStructured
  rw [hsplit, splitUnescaped_join (by decide) _ _ c.escaped_text]
  · simp [Component.splitList_text]
  · simp only [List.mem_map]
    rintro y ⟨x, -, rfl⟩
    exact x.escaped_text

/-- **List and structured values read back**, up to line ends (CR LF and CR read
as LF). A list joined by a comma or a semicolon splits back into its items,
unless it is the single empty item, which is written as no text at all. A
structured value of at least one component splits back component by component:
an absent or empty text has no items, any other text is its one item, and a list
keeps its items, the single empty item again reading as none. -/
theorem list_and_structured_round_trip :
    (∀ d ∈ [",", ";"], ∀ items : List String, items ≠ [""] →
      splitList (joinList items d) d = items.map lineFeeds) ∧
    ∀ cs : List Component, cs ≠ [] → splitStructured (joinStructured cs) = cs.map fun
      | .absent => []
      | .single s => if s = "" then [] else [lineFeeds s]
      | .many items => if items = [""] then [] else items.map lineFeeds := by
  refine ⟨fun d hd items hne => ?_, fun cs hcs => ?_⟩
  · -- either delimiter is one character, a comma or a semicolon
    obtain ⟨c, hdc, hc⟩ : ∃ c, d.toList = [c] ∧ (c = ',' ∨ c = ';') := by
      simp only [List.mem_cons, List.not_mem_nil, or_false] at hd
      rcases hd with rfl | rfl
      · exact ⟨',', rfl, .inl rfl⟩
      · exact ⟨';', rfl, .inr rfl⟩
    rw [splitList_joinList hdc hc, itemsBack, if_neg hne]
  · rw [splitStructured_joinStructured hcs]
    apply List.map_congr_left
    intro x _
    cases x with
    | absent => rfl
    | single s => by_cases h : s = "" <;> simp [Component.readBack, itemsBack, h]
    | many items => rfl

/-- A semicolon list whose first item holds the delimiter and whose second holds
a CR LF, and an address-like value with an absent component, a text holding a
semicolon and a list whose first item holds a comma. -/
theorem semicolonList_and_address_read_back :
    (";" ∈ [",", ";"] ∧ ["a;b", "c\r\nd"] ≠ [""] ∧
      splitList (joinList ["a;b", "c\r\nd"] ";") ";" = ["a;b", "c\r\nd"].map lineFeeds) ∧
    ([.absent, .single "x;y", .many ["1,2", ""]] ≠ ([] : List Component) ∧
      splitStructured (joinStructured [.absent, .single "x;y", .many ["1,2", ""]]) =
        [[], [lineFeeds "x;y"], ["1,2", ""].map lineFeeds]) :=
  ⟨⟨by simp, by simp, list_and_structured_round_trip.1 ";" (by simp) _ (by simp)⟩,
    ⟨List.cons_ne_nil _ _, (list_and_structured_round_trip.2 _ (List.cons_ne_nil _ _)).trans (by simp)⟩⟩

/-! ### Written text without line breaks -/

/-- Text with no carriage return and no line feed. -/
def Unbroken (cs : List Char) : Prop := ∀ c ∈ cs, c ≠ '\r' ∧ c ≠ '\n'

instance : DecidablePred Unbroken := fun cs => inferInstanceAs (Decidable (∀ c ∈ cs, c ≠ '\r' ∧ c ≠ '\n'))

@[simp] theorem unbroken_nil : Unbroken [] := fun _ h => absurd h List.not_mem_nil

@[simp] theorem unbroken_cons {c : Char} {cs : List Char} :
    Unbroken (c :: cs) ↔ (c ≠ '\r' ∧ c ≠ '\n') ∧ Unbroken cs :=
  List.forall_mem_cons

@[simp] theorem unbroken_append {a b : List Char} : Unbroken (a ++ b) ↔ Unbroken a ∧ Unbroken b :=
  List.forall_mem_append

theorem unbroken_flatMap {α : Type} {f : α → List Char} {l : List α} :
    Unbroken (l.flatMap f) ↔ ∀ x ∈ l, Unbroken (f x) := by
  simp only [Unbroken, List.mem_flatMap]
  grind

theorem unbroken_escapeChars (cs : List Char) : Unbroken (escapeChars true cs) := by
  fun_induction escapeChars true cs <;> simp_all [Unbroken]

/-- Without escaping line breaks, escaping adds none. -/
theorem unbroken_escapeChars_of (newlines : Bool) {cs : List Char} (h : Unbroken cs) :
    Unbroken (escapeChars newlines cs) := by
  fun_induction escapeChars newlines cs <;> simp_all [Unbroken]

/-- Text without line breaks is escaped alike whether line breaks would be or not. -/
theorem escapeChars_of_unbroken (newlines : Bool) {cs : List Char} (h : Unbroken cs) :
    escapeChars newlines cs = escapeChars true cs := by
  fun_induction escapeChars newlines cs <;> simp_all [escapeChars]

theorem lineFeeds_of_unbroken {s : String} (h : Unbroken s.toList) : lineFeeds s = s := by
  rw [lineFeeds, universalLineEnds_of_forall fun hc => (h _ hc).1 rfl, String.ofList_toList]

theorem unbroken_escape (s : String) : Unbroken (escape s).toList := by
  simpa [escape] using unbroken_escapeChars s.toList

theorem unbroken_singleton {c : Char} (h1 : c ≠ '\r') (h2 : c ≠ '\n') : Unbroken [c] := by
  simp [Unbroken, h1, h2]

/-- Unbroken pieces joined by a character that is no line end. -/
theorem unbroken_intercalate {c : Char} (hc : Unbroken [c]) :
    ∀ {xs : List (List Char)}, (∀ x ∈ xs, Unbroken x) → Unbroken ([c].intercalate xs)
  | [], _ => by simp [Unbroken]
  | x :: xs, h => by
    rw [intercalate_single_cons]
    intro d hd
    simp only [List.mem_append, List.mem_flatMap, List.mem_cons] at hd
    rcases hd with hd | ⟨y, hy, rfl | hd⟩
    · exact h x List.mem_cons_self d hd
    · exact hc d List.mem_cons_self
    · exact h y (List.mem_cons_of_mem _ hy) d hd

theorem unbroken_joinList {d : String} {c : Char} (hd : d.toList = [c]) (hc : Unbroken [c]) (items : List String) :
    Unbroken (joinList items d).toList := by
  rw [joinList_toList hd]
  apply unbroken_intercalate hc
  simp only [List.mem_map]
  rintro x ⟨s, -, rfl⟩
  exact unbroken_escapeChars s.toList

theorem Component.unbroken_text (x : Component) : Unbroken x.text.toList := by
  cases x with
  | absent => simp [Component.text, Unbroken]
  | single s => exact unbroken_escape s
  | many items => exact unbroken_joinList (c := ',') rfl (unbroken_singleton (by decide) (by decide)) items

theorem unbroken_joinStructured (cs : List Component) : Unbroken (joinStructured cs).toList := by
  rw [joinStructured_eq, String.toList_intercalate, List.map_map]
  apply unbroken_intercalate (unbroken_singleton (by decide) (by decide))
  simp only [List.mem_map, Function.comp_apply]
  rintro x ⟨y, -, rfl⟩
  exact y.unbroken_text

end VCard.Text
