import Mathlib
import VCard.Vcf.Read
import VCard.Vcf.Write
import VCard.Proofs.Params
import VCard.Proofs.ContentLine.Parse
import VCard.Proofs.Text.Escape
/-! The content line is a lossless codec.

`parse_contentLine` is the headline: a line the writer makes of a group, a name,
parameters and a value parses back to the same group, name and value, and a
reader with the same caret setting reads its parameters back as the same
parameters (`Params.sameAs`), each value as the reader decodes it
(`Writer.paramValueReadBack`). It asks only that the group and every name be of
ASCII letters, digits and `-` (`IsName`), that no value be empty and that no
`TYPE` value hold a comma.

Three facts carry it. The line is the written parameters of `WrittenParam`
character by character (`contentLine_toList`), so `parse_written` reads it; the
reader's fold over the scanned parameters stores each value under its name in
order (`parameters_eq`); and caret decoding undoes caret encoding up to line ends
(`caretDecodeChars_caretEncodeChars_lines`). The writer groups the values by name,
which `Params.sameAs_regroup` undoes. -/
namespace VCard.ContentLine

/-! ### Names -/

/-- A property or parameter name as the writer may put it on a line: ASCII
letters, digits and `-`. -/
def IsName (s : String) : Prop := s.toList ≠ [] ∧ ∀ c ∈ s.toList, isNameChar c = true ∧ c ≠ '_'

/-- `IsName` as a check on the characters. -/
def isNameChars (cs : List Char) : Bool := !cs.isEmpty && cs.all fun c => isNameChar c && c != '_'

theorem isNameChars_iff (s : String) : isNameChars s.toList = true ↔ IsName s := by
  simp [isNameChars, IsName]

instance : DecidablePred IsName := fun s => decidable_of_iff _ (isNameChars_iff s)

theorem toNat_lt_of_isNameChar {c : Char} (h : isNameChar c = true) : c.toNat < 0x80 := by
  simp only [isNameChar, Bool.or_eq_true, Bool.and_eq_true, decide_eq_true_eq, beq_iff_eq,
    Char.le_def, UInt32.le_iff_toNat_le] at h
  have hv : c.val.toNat = c.toNat := rfl
  rcases h with (((⟨_, h⟩ | ⟨_, h⟩) | ⟨_, h⟩) | h) | h
  all_goals first
    | (rw [hv] at h; simp at h; omega)
    | (subst h; decide)

/-- What capitals do to a name character: they give name characters, `_` only
from `_`, that capitals leave as they are. -/
def upperKeepsName (c : Char) : Bool :=
  !isNameChar c || (!(Text.upperChars [c]).isEmpty &&
    Text.upperChars (Text.upperChars [c]) == Text.upperChars [c] &&
    (Text.upperChars [c]).all fun d => isNameChar d && (c == '_' || d != '_'))

/-- Checked on all of ASCII, where every name character lies. -/
theorem upperKeepsName_ascii : (List.range 0x80).all (fun n => upperKeepsName (Char.ofNat n)) = true := by
  decide

theorem upperKeepsName_of_isNameChar {c : Char} (hc : isNameChar c = true) : upperKeepsName c = true := by
  have h := List.all_eq_true.mp upperKeepsName_ascii c.toNat (List.mem_range.mpr (toNat_lt_of_isNameChar hc))
  rwa [Char.ofNat_toNat] at h

theorem upperChars_name {cs : List Char} (h : ∀ c ∈ cs, isNameChar c = true ∧ c ≠ '_') :
    (cs ≠ [] → Text.upperChars cs ≠ []) ∧ Text.upperChars (Text.upperChars cs) = Text.upperChars cs ∧
      ∀ d ∈ Text.upperChars cs, isNameChar d = true ∧ d ≠ '_' := by
  induction cs with
  | nil => simp [Text.upperChars]
  | cons c cs ih =>
    obtain ⟨hc, hu⟩ := h c List.mem_cons_self
    obtain ⟨-, ih1, ih2⟩ := ih fun d hd => h d (List.mem_cons_of_mem _ hd)
    have hkeep : Text.upperChars [c] ≠ [] ∧ Text.upperChars (Text.upperChars [c]) = Text.upperChars [c] ∧
        ∀ d ∈ Text.upperChars [c], isNameChar d = true ∧ (c = '_' ∨ d ≠ '_') := by
      simpa [upperKeepsName, hc, and_assoc] using upperKeepsName_of_isNameChar hc
    have hsplit : ∀ xs : List Char, Text.upperChars (c :: xs) = Text.upperChars [c] ++ Text.upperChars xs := by
      intro xs
      simp [Text.upperChars]
    have happ : ∀ xs ys : List Char, Text.upperChars (xs ++ ys) = Text.upperChars xs ++ Text.upperChars ys := by
      intro xs ys
      simp [Text.upperChars]
    obtain ⟨hne, hidem, hnames⟩ := hkeep
    refine ⟨fun _ => ?_, ?_, ?_⟩
    · rw [hsplit]
      simp [hne]
    · rw [hsplit, happ, hidem, ih1]
    · intro d hd
      rw [hsplit, List.mem_append] at hd
      rcases hd with hd | hd
      · exact ⟨(hnames d hd).1, (hnames d hd).2.resolve_left hu⟩
      · exact ih2 d hd

/-- The stored spelling of a name is a name, and stores as itself. -/
theorem isName_key {n : String} (h : IsName n) : IsName (Params.key n) ∧ Params.key (Params.key n) = Params.key n := by
  obtain ⟨hne, hcs⟩ := h
  obtain ⟨h0, h1, h2⟩ := upperChars_name hcs
  refine ⟨⟨?_, ?_⟩, ?_⟩
  · simpa [Params.key, Text.upper] using h0 hne
  · simpa [Params.key, Text.upper] using h2
  · simp [Params.key, Text.upper, h1]

/-- The name and value pairs of scanned parameters, one pair per value. -/
def pairsOf (raw : List (String × List String)) : List (String × String) := raw.flatMap fun e => e.2.map (e.1, ·)

/-! ### Encoded parameter values -/

theorem dquote_not_mem_caretEncodeChars (cs : List Char) : '"' ∉ caretEncodeChars cs := by
  fun_induction caretEncodeChars cs with
  | case7 c r _ _ _ _ hq ih =>
    simp only [List.mem_cons, not_or]
    exact ⟨fun h => hq h.symm, ih⟩
  | _ => simp_all

theorem dquote_not_mem_sanitizeChars (cs : List Char) : '"' ∉ sanitizeChars cs := by
  fun_induction sanitizeChars cs with
  | case6 c r hq _ _ _ ih =>
    simp only [List.mem_cons, not_or]
    exact ⟨fun h => hq h.symm, ih⟩
  | _ => simp_all

theorem caretEncodeChars_ne_nil {cs : List Char} (h : cs ≠ []) : caretEncodeChars cs ≠ [] := by
  fun_induction caretEncodeChars cs <;> simp_all

theorem sanitizeChars_ne_nil {cs : List Char} (h : cs ≠ []) : sanitizeChars cs ≠ [] := by
  fun_induction sanitizeChars cs <;> simp_all

theorem quotable_caretEncode {v : String} (hv : v ≠ "") : Quotable (caretEncode v).toList := by
  have : v.toList ≠ [] := by simpa using hv
  exact ⟨by simpa [caretEncode] using caretEncodeChars_ne_nil this,
    by simpa [caretEncode] using dquote_not_mem_caretEncodeChars v.toList⟩

theorem quotable_sanitize {v : String} (hv : v ≠ "") : Quotable (sanitize v).toList := by
  have : v.toList ≠ [] := by simpa using hv
  exact ⟨by simpa [sanitize] using sanitizeChars_ne_nil this,
    by simpa [sanitize] using dquote_not_mem_sanitizeChars v.toList⟩

/-- Reading line ends back into line feeds keeps a text free of commas. -/
theorem comma_not_mem_universalLineEnds {cs : List Char} (h : ',' ∉ cs) : ',' ∉ Text.universalLineEnds cs := by
  fun_induction Text.universalLineEnds cs <;> simp_all

theorem comma_not_mem_sanitizeChars {cs : List Char} (h : ',' ∉ cs) : ',' ∉ sanitizeChars cs := by
  fun_induction sanitizeChars cs <;> simp_all

theorem caretDecodeChars_cons {c : Char} (r : List Char) (h : c ≠ '^') :
    caretDecodeChars (c :: r) = c :: caretDecodeChars r := by
  rw [caretDecodeChars.eq_def]
  split <;> simp_all

/-- Caret escapes give back every character, with each line end as LF. -/
theorem caretDecodeChars_caretEncodeChars_lines (cs : List Char) :
    caretDecodeChars (caretEncodeChars cs) = Text.universalLineEnds cs := by
  fun_induction caretEncodeChars cs with
  | case1 => rfl
  | case2 r ih => simp [caretDecodeChars, Text.universalLineEnds, ih]
  | case3 r ih => simp [caretDecodeChars, Text.universalLineEnds, ih]
  | case4 r ih => simp [caretDecodeChars, Text.universalLineEnds, ih]
  | case5 r h ih => simp [caretDecodeChars, Text.universalLineEnds_cr (fun r' e => h r' e), ih]
  | case6 r ih => simp [caretDecodeChars, Text.universalLineEnds, ih]
  | case7 c r h1 _ _ h4 _ ih => rw [caretDecodeChars_cons _ h1, Text.universalLineEnds_cons _ h4, ih]

/-- **Caret escapes lose only the kind of line end**: decoding an encoded text
gives it back with each CR LF, and each CR left alone, as LF. -/
theorem caretDecode_caretEncode (v : String) :
    caretDecode (caretEncode v) = String.ofList (Text.universalLineEnds v.toList) := by
  rw [caretDecode, caretEncode, String.toList_ofList, caretDecodeChars_caretEncodeChars_lines]

section Lines

open Text

/-! ### No line breaks on a written line -/

theorem unbroken_caretEncodeChars (cs : List Char) : Unbroken (caretEncodeChars cs) := by
  fun_induction caretEncodeChars cs <;> simp_all [Unbroken]

theorem unbroken_sanitizeChars (cs : List Char) : Unbroken (sanitizeChars cs) := by
  fun_induction sanitizeChars cs <;> simp_all [Unbroken]

theorem unbroken_quoted {e : List Char} (h : Unbroken e) : Unbroken (quoted e) := by
  unfold quoted
  split <;> simp [h]

theorem IsName.ne_empty {s : String} (h : IsName s) : s ≠ "" := by
  rintro rfl
  exact h.1 rfl

theorem IsName.unbroken {s : String} (h : IsName s) : Unbroken s.toList := by
  intro c hc
  have hn := (h.2 c hc).1
  constructor <;> rintro rfl <;> exact absurd hn (by decide)

theorem WrittenParam.unbroken_chars {q : WrittenParam} (hn : Unbroken q.name) (hf : Unbroken q.first)
    (hm : ∀ x ∈ q.more, Unbroken x) : Unbroken q.chars := by
  simp only [WrittenParam.chars, valuesChars, List.cons_append, unbroken_cons, unbroken_append, unbroken_flatMap]
  exact ⟨by decide, hn, by decide, unbroken_quoted hf, fun x hx => ⟨by decide, unbroken_quoted (hm x hx)⟩⟩

end Lines

end VCard.ContentLine

namespace VCard.Params

open ContentLine

/-- Parameters that a content line carries: names of name characters, stored as
themselves, no empty value, and no comma in a `TYPE` value, which the reader
would split. -/
structure Portable (p : Params) : Prop where
  keyed : p.Keyed
  names : ∀ e ∈ p.entries, IsName e.1
  values : ∀ e ∈ p.entries, e.2 ≠ ""
  types : ∀ e ∈ p.entries, e.1 = "TYPE" → ',' ∉ e.2.toList

theorem portable_ofList (pairs : List (String × String))
    (h : ∀ q ∈ pairs, IsName q.1 ∧ q.2 ≠ "" ∧ (key q.1 = "TYPE" → ',' ∉ q.2.toList)) :
    (ofList pairs).Portable := by
  refine ⟨keyed_ofList pairs fun q hq => (isName_key (h q hq).1).2, ?_, ?_, ?_⟩
  all_goals
    intro e he
    simp only [ofList, List.mem_map] at he
    obtain ⟨q, hq, rfl⟩ := he
  · exact (isName_key (h q hq).1).1
  · exact (h q hq).2.1
  · exact (h q hq).2.2

/-- What one entry needs to be written on a content line and read back. -/
def PortableEntry (e : String × String) : Prop :=
  key e.1 = e.1 ∧ IsName e.1 ∧ e.2 ≠ "" ∧ (e.1 = "TYPE" → ',' ∉ e.2.toList)

theorem Portable.entry {p : Params} (hp : p.Portable) {e : String × String} (he : e ∈ p.entries) :
    PortableEntry e :=
  ⟨hp.keyed e he, hp.names e he, hp.values e he, hp.types e he⟩

theorem Portable.of_entries {p : Params} (h : ∀ e ∈ p.entries, PortableEntry e) : p.Portable :=
  ⟨fun e he => (h e he).1, fun e he => (h e he).2.1, fun e he => (h e he).2.2.1, fun e he => (h e he).2.2.2⟩

theorem Portable.erase {p : Params} (hp : p.Portable) (n : String) : (p.erase n).Portable :=
  Portable.of_entries fun _ he => hp.entry (mem_erase he).1

/-- A parameter other than `TYPE`, stored as itself, with a value. -/
theorem portableEntry_name {n v : String} (hn : isNameChars n.toList = true) (hk : key n = n) (hv : v ≠ "")
    (ht : n ≠ "TYPE") : PortableEntry (n, v) :=
  ⟨hk, (isNameChars_iff n).mp hn, hv, fun h => absurd h ht⟩

end VCard.Params

namespace VCard.Vcf

/-! ### The reader's parameters -/

/-- How the reader takes a parameter value: caret-decoded in 3.0 and 4.0 when
caret escapes are on. -/
def paramValueDecoded (settings : Settings) (v : Version) (x : String) : String :=
  if settings.caretEncoding && v != .v21 then ContentLine.caretDecode x else x

/-- A fold that appends to the parameters at every step appends all the steps. -/
theorem foldl_appends {α : Type} (F : Params → α → Params) (g : α → List (String × String)) (l : List α)
    (hF : ∀ p, ∀ a ∈ l, F p a = ⟨p.entries ++ g a⟩) (p : Params) :
    l.foldl F p = ⟨p.entries ++ l.flatMap g⟩ := by
  induction l generalizing p with
  | nil => simp
  | cons a l ih =>
    rw [List.foldl_cons, hF p a List.mem_cons_self, ih (fun q b hb => hF q b (List.mem_cons_of_mem _ hb))]
    simp

/-- **The reader keeps every named parameter value in order**: with no nameless
parameter and no `TYPE` value holding a comma, each value is stored under its
name, decoded. -/
theorem parameters_eq (settings : Settings) (types : DataType.Registry) (raw : List (String × List String))
    (v : Version) (hne : ∀ e ∈ raw, e.2 ≠ [])
    (htype : ∀ e ∈ ContentLine.pairsOf raw,
      Text.upper e.1 = "TYPE" → ',' ∉ (paramValueDecoded settings v e.2).toList) :
    parameters settings types raw v =
      ⟨(ContentLine.pairsOf raw).map fun e => (Params.key e.1, paramValueDecoded settings v e.2)⟩ := by
  unfold parameters
  rw [foldl_appends _ (fun e => e.2.map fun x => (Params.key e.1, paramValueDecoded settings v x))]
  · simp [ContentLine.pairsOf, List.map_flatMap, Function.comp_def]
  intro p e he
  have hempty : e.2.isEmpty = false := by simpa using hne e he
  simp only [hempty, Bool.false_eq_true, if_false]
  -- the values of one parameter: each is stored as it is decoded
  rw [foldl_appends _ (fun x => [(Params.key e.1, paramValueDecoded settings v x)])]
  · simp [List.map_eq_flatMap]
  intro q x hx
  by_cases ht : Text.upper e.1 = "TYPE"
  · have hc := htype (e.1, x) (by simp only [ContentLine.pairsOf, List.mem_flatMap, List.mem_map]; exact ⟨e, he, x, hx, rfl⟩) ht
    simp only [paramValueDecoded, Bool.and_eq_true, bne_iff_ne, ne_eq] at hc
    simp [ht, hc, Params.put, paramValueDecoded]
  · simp [ht, Params.put, paramValueDecoded]

end VCard.Vcf

namespace VCard.Vcf.Writer

open ContentLine

/-! ### The written line -/

/-- A parameter value once encoded for the line: caret escapes in 3.0 and 4.0 when
they are on, else quotes and line breaks replaced. -/
def encodedParamValue (w : Writer) (v : String) : String :=
  if w.version != .v21 && w.settings.caretEncoding then caretEncode v else sanitize v

theorem paramValue_eq (w : Writer) (v : String) : w.paramValue v = quoteParamValue (w.encodedParamValue v) := rfl

/-- The parameters of a line as the writer lays them out: grouped by name, one
`NAME=value` per value in 2.1, one `NAME=value,value` per name after. -/
def writtenParams (w : Writer) (p : Params) : List WrittenParam :=
  if w.version == .v21 then
    p.multimap.flatMap fun nv => nv.2.map fun v => ⟨nv.1.toList, (w.encodedParamValue v).toList, []⟩
  else
    p.multimap.map fun nv => match nv.2 with
      | [] => ⟨nv.1.toList, [], []⟩
      | v :: vs => ⟨nv.1.toList, (w.encodedParamValue v).toList, vs.map fun x => (w.encodedParamValue x).toList⟩

theorem toList_paramValue (w : Writer) (v : String) :
    (w.paramValue v).toList = quoted (w.encodedParamValue v).toList := by
  rw [paramValue_eq, quoteParamValue_toList]

theorem parts_toList (w : Writer) (p : Params) :
    ((p.multimap.flatMap fun (nv : String × List String) =>
        let encoded := nv.2.map w.paramValue
        if w.version == .v21 then encoded.map (nv.1 ++ "=" ++ ·) else [nv.1 ++ "=" ++ ",".intercalate encoded]).map
        String.toList).flatMap (';' :: ·) =
      (w.writtenParams p).flatMap WrittenParam.chars := by
  unfold writtenParams
  split
  · next h =>
    simp [List.flatMap_map, List.map_flatMap, Function.comp_def, WrittenParam.chars, valuesChars,
      String.toList_append, toList_paramValue, List.flatMap_assoc]
  · next h =>
    simp only [List.map_flatMap, List.flatMap_assoc, List.flatMap_map]
    congr 1
    funext nv
    cases hv : nv.2 with
    | nil => simp [WrittenParam.chars, valuesChars, quoted, needsQuotes]
    | cons v vs =>
      simp [WrittenParam.chars, valuesChars, String.toList_append, toList_paramValue,
        Text.intercalate_single_cons, List.flatMap_map, Function.comp_def]

/-- **A written content line, character by character**: the head, then `;` and
each written parameter, then `:` and the value. -/
theorem contentLine_toList (w : Writer) (group : Option String) (name : String) (p : Params) (value : String)
    (hg : ∀ g ∈ group, g ≠ "") :
    (w.contentLine group name p value).toList =
      headChars (group.map String.toList) name.toList ++
        ((w.writtenParams p).flatMap WrittenParam.chars ++ ':' :: value.toList) := by
  unfold contentLine
  simp only [String.toList_append, String.toList_intercalate, List.map_cons]
  rw [show ";".toList = [';'] from rfl, Text.intercalate_single_cons, parts_toList]
  cases group with
  | none => simp [headChars]
  | some g =>
    have hne : g.isEmpty = false := by simpa using hg g rfl
    simp [headChars, hne, String.toList_append]

section Lines

open Text

theorem unbroken_encodedParamValue (w : Writer) (v : String) : Unbroken (w.encodedParamValue v).toList := by
  unfold encodedParamValue
  split
  · simpa [caretEncode] using unbroken_caretEncodeChars v.toList
  · simpa [sanitize] using unbroken_sanitizeChars v.toList

theorem unbroken_writtenParams (w : Writer) {p : Params} (hp : p.Portable) :
    Unbroken ((w.writtenParams p).flatMap WrittenParam.chars) := by
  have hname : ∀ nv ∈ p.multimap, Unbroken nv.1.toList := fun nv hnv => by
    obtain ⟨e, he, hn⟩ := Params.mem_names.mp (Params.mem_multimap.mp hnv).1
    rw [← hn]
    exact (hp.names e he).unbroken
  rw [unbroken_flatMap]
  intro q hq
  unfold writtenParams at hq
  split at hq
  · simp only [List.mem_flatMap, List.mem_map] at hq
    obtain ⟨nv, hnv, v, -, rfl⟩ := hq
    exact WrittenParam.unbroken_chars (hname nv hnv) (w.unbroken_encodedParamValue v) (by simp)
  · simp only [List.mem_map] at hq
    obtain ⟨nv, hnv, rfl⟩ := hq
    split
    · exact WrittenParam.unbroken_chars (hname nv hnv) (by simp [Unbroken]) (by simp)
    · refine WrittenParam.unbroken_chars (hname nv hnv) (w.unbroken_encodedParamValue _) fun x hx => ?_
      obtain ⟨y, -, rfl⟩ := List.mem_map.mp hx
      exact w.unbroken_encodedParamValue y

/-- A content line of names, portable parameters and a value without line
breaks holds no line break. -/
theorem unbroken_contentLine (w : Writer) {group : Option String} {name : String} {p : Params} {value : String}
    (hgroup : ∀ g ∈ group, IsName g) (hname : IsName name) (hp : p.Portable) (hvalue : Unbroken value.toList) :
    Unbroken (w.contentLine group name p value).toList := by
  have hg : ∀ g ∈ group, g ≠ "" := fun g hg => (hgroup g hg).ne_empty
  rw [w.contentLine_toList group name p value hg]
  simp only [unbroken_append, unbroken_cons]
  refine ⟨?_, w.unbroken_writtenParams hp, ⟨by decide, by decide⟩, hvalue⟩
  cases group with
  | none => exact hname.unbroken
  | some g =>
    simp only [headChars, Option.map_some, unbroken_append, unbroken_cons]
    exact ⟨(hgroup g rfl).unbroken, ⟨by decide, by decide⟩, hname.unbroken⟩

end Lines

theorem encodedParamValue_quotable (w : Writer) {v : String} (hv : v ≠ "") :
    Quotable (w.encodedParamValue v).toList := by
  unfold encodedParamValue
  split
  · exact quotable_caretEncode hv
  · exact quotable_sanitize hv

/-! ### Reading the line back -/

/-- A parameter value as a reader with the same caret setting gets it back:
with caret escapes every line end becomes LF, without them the value is made
safe. -/
def paramValueReadBack (w : Writer) (v : String) : String :=
  if w.version != .v21 && w.settings.caretEncoding then String.ofList (Text.universalLineEnds v.toList)
  else sanitize v

theorem paramValueDecoded_encoded (w : Writer) {reader : Settings}
    (hcaret : reader.caretEncoding = w.settings.caretEncoding) (v : String) :
    paramValueDecoded reader w.version (w.encodedParamValue v) = w.paramValueReadBack v := by
  unfold paramValueDecoded encodedParamValue paramValueReadBack
  rw [hcaret]
  cases w.settings.caretEncoding <;> cases w.version <;>
    simp [caretDecode, caretEncode, caretDecodeChars_caretEncodeChars_lines]

theorem writtenParams_valid (w : Writer) {p : Params} (hp : p.Portable) :
    ∀ q ∈ w.writtenParams p, q.Valid := by
  have hname : ∀ nv ∈ p.multimap, nv.1.toList ≠ [] ∧ ∀ c ∈ nv.1.toList, isNameChar c = true := by
    intro nv hnv
    obtain ⟨v, hv⟩ := List.exists_mem_of_ne_nil _ (hp.keyed.getAll_ne_nil (Params.mem_multimap.mp hnv).1)
    have hn := hp.names _ (hp.keyed.mem_entries hnv ((Params.mem_multimap.mp hnv).2 ▸ hv))
    exact ⟨hn.1, fun c hc => (hn.2 c hc).1⟩
  have hvalue : ∀ nv ∈ p.multimap, ∀ v ∈ nv.2, Quotable (w.encodedParamValue v).toList :=
    fun nv hnv v hv => w.encodedParamValue_quotable (hp.values _ (hp.keyed.mem_entries hnv hv))
  unfold writtenParams
  split
  · simp only [List.mem_flatMap, List.mem_map]
    rintro q ⟨nv, hnv, v, hv, rfl⟩
    exact ⟨(hname nv hnv).1, (hname nv hnv).2, hvalue nv hnv v hv, by simp⟩
  · simp only [List.mem_map]
    rintro q ⟨nv, hnv, rfl⟩
    have hne : nv.2 ≠ [] := by
      rw [(Params.mem_multimap.mp hnv).2]
      exact hp.keyed.getAll_ne_nil (Params.mem_multimap.mp hnv).1
    obtain ⟨n, vs⟩ := nv
    cases vs with
    | nil => exact absurd rfl hne
    | cons v vs =>
      refine ⟨(hname _ hnv).1, (hname _ hnv).2, hvalue _ hnv v (by simp), ?_⟩
      simp only [List.mem_map]
      rintro x ⟨y, hy, rfl⟩
      exact hvalue _ hnv y (by simp [hy])

/-- Read back pair by pair, the written parameters are the values of each name,
grouped by name, each encoded. -/
theorem pairsOf_writtenParams (w : Writer) {p : Params} (hp : p.Keyed) :
    pairsOf ((w.writtenParams p).map WrittenParam.read) =
      p.multimap.flatMap fun nv => nv.2.map fun v => (nv.1, w.encodedParamValue v) := by
  unfold writtenParams
  split
  · simp [pairsOf, WrittenParam.read, List.flatMap_map, List.map_flatMap, List.flatMap_assoc, Function.comp_def]
    simp only [List.map_eq_flatMap]
  · -- one written parameter per name, which has a value
    simp only [pairsOf, List.map_map, List.flatMap_def]
    congr 1
    apply List.map_congr_left
    intro nv hnv
    have hne : nv.2 ≠ [] := by
      rw [(Params.mem_multimap.mp hnv).2]
      exact hp.getAll_ne_nil (Params.mem_multimap.mp hnv).1
    obtain ⟨n, vs⟩ := nv
    cases vs with
    | nil => exact absurd rfl hne
    | cons v vs => simp [WrittenParam.read, Function.comp_def]

theorem comma_not_mem_paramValueReadBack (w : Writer) {v : String} (h : ',' ∉ v.toList) :
    ',' ∉ (w.paramValueReadBack v).toList := by
  unfold paramValueReadBack
  split
  · simpa using comma_not_mem_universalLineEnds h
  · simpa [sanitize] using comma_not_mem_sanitizeChars h

/-- **Reading back written parameters**: every value under its name, grouped by
name, as a reader with the same caret setting decodes it. -/
theorem parameters_writtenParams (w : Writer) {reader : Settings} (types : DataType.Registry) {p : Params}
    (hcaret : reader.caretEncoding = w.settings.caretEncoding) (hp : p.Portable) :
    parameters reader types ((w.writtenParams p).map WrittenParam.read) w.version =
      ⟨p.multimap.flatMap fun nv => nv.2.map fun v => (nv.1, w.paramValueReadBack v)⟩ := by
  rw [parameters_eq, w.pairsOf_writtenParams hp.keyed]
  · congr 1
    rw [List.map_flatMap, List.flatMap_def, List.flatMap_def]
    congr 1
    apply List.map_congr_left
    intro nv hnv
    simp [Function.comp_def, hp.keyed.key_of_mem_names (Params.mem_multimap.mp hnv).1,
      w.paramValueDecoded_encoded hcaret]
  · intro e he
    obtain ⟨q, -, rfl⟩ := List.mem_map.mp he
    simp [WrittenParam.read]
  · rw [w.pairsOf_writtenParams hp.keyed]
    simp only [List.mem_flatMap, List.mem_map]
    rintro e ⟨nv, hnv, v, hv, rfl⟩ htype
    have hkey := hp.keyed.key_of_mem_names (Params.mem_multimap.mp hnv).1
    rw [w.paramValueDecoded_encoded hcaret]
    apply w.comma_not_mem_paramValueReadBack
    apply hp.types _ (hp.keyed.mem_entries hnv hv)
    rw [← hkey]
    exact htype

/-- A written content line parses back to its group, its name, the written
parameters and its value. -/
theorem parse_contentLine_written (w : Writer) {group : Option String} {name : String} {p : Params}
    (value : String) (hgroup : ∀ g ∈ group, IsName g) (hname : IsName name) (hp : p.Portable) :
    parse (w.contentLine group name p value) =
      some ⟨group, name, (w.writtenParams p).map WrittenParam.read, value⟩ := by
  have hvalid := w.writtenParams_valid hp
  have hg : ∀ g ∈ group, g ≠ "" := fun g hg => (hgroup g hg).ne_empty
  rw [← String.ofList_toList (s := w.contentLine group name p value), w.contentLine_toList group name p value hg,
    parse_written _ _ _ _ ?_ hname.1 hname.2 hvalid,
    scanParams_written _ hvalid _ (by have := length_le_flatMap_chars (w.writtenParams p); omega)]
  · simp
  · cases group with
    | none => simp
    | some g =>
      have hg := hgroup g rfl
      simp only [Option.map_some, Option.mem_def, Option.some.injEq, forall_eq']
      exact ⟨hg.1, fun c hc => (hg.2 c hc).1⟩

/-- **The content line is a lossless codec**: a line written for any group and
name of name characters and any parameters with names of name characters,
non-empty values and no comma in a `TYPE` value parses back to the same group,
name and value, and its parameters read back, by a reader with the same caret
setting, as the same parameters with each value as the reader decodes it. -/
theorem parse_contentLine (w : Writer) (reader : Settings) (types : DataType.Registry)
    (group : Option String) (name : String) (pairs : List (String × String)) (value : String)
    (hcaret : reader.caretEncoding = w.settings.caretEncoding)
    (hgroup : ∀ g ∈ group, IsName g) (hname : IsName name)
    (hpairs : ∀ q ∈ pairs, IsName q.1 ∧ q.2 ≠ "" ∧ (Params.key q.1 = "TYPE" → ',' ∉ q.2.toList)) :
    ∃ raw, parse (w.contentLine group name (Params.ofList pairs) value) = some ⟨group, name, raw, value⟩ ∧
      (parameters reader types raw w.version).sameAs
        (Params.ofList (pairs.map fun q => (q.1, w.paramValueReadBack q.2))) = true := by
  have hp := Params.portable_ofList pairs hpairs
  refine ⟨_, w.parse_contentLine_written value hgroup hname hp, ?_⟩
  rw [w.parameters_writtenParams types hcaret hp, Params.ofList_mapValues]
  exact Params.sameAs_regroup hp.keyed _

/-- A grouped address line of 4.0 with a `TYPE` written in lower case and a
label over two lines. -/
theorem parse_contentLine_label_lines :
    ({} : Settings).caretEncoding = ({ version := .v40 } : Writer).settings.caretEncoding ∧
    (∀ g ∈ some "home", IsName g) ∧ IsName "ADR" ∧
    (∀ q ∈ [("type", "work"), ("LABEL", "1 Main St\r\nSpringfield")],
      IsName q.1 ∧ q.2 ≠ "" ∧ (Params.key q.1 = "TYPE" → ',' ∉ q.2.toList)) ∧
    ∃ raw, parse (({ version := .v40 } : Writer).contentLine (some "home") "ADR"
        (Params.ofList [("type", "work"), ("LABEL", "1 Main St\r\nSpringfield")]) ";;1 Main St;Springfield;;;") =
        some ⟨some "home", "ADR", raw, ";;1 Main St;Springfield;;;"⟩ ∧
      (parameters {} {} raw .v40).sameAs
        (Params.ofList ([("type", "work"), ("LABEL", "1 Main St\r\nSpringfield")].map
          fun q => (q.1, ({ version := .v40 } : Writer).paramValueReadBack q.2))) = true :=
  ⟨rfl, by decide +kernel, by decide +kernel, by decide +kernel,
    parse_contentLine _ {} {} _ _ _ _ rfl (by decide +kernel) (by decide +kernel) (by decide +kernel)⟩

end VCard.Vcf.Writer
