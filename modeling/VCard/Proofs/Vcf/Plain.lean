import VCard.Proofs.Vcf.Single
/-! Values of one text slot, written and read back.

A text, a URI, a telephone number, a related entity, a place given as text or
a URI, an XML document and a raw value each hold one string. Their codecs write
it either escaped or, for URIs and raw values, as it is (`Codec.writesVerbatim`),
and read it unescaped at the data type the writer announced.

`readText_writeText_plain` says what comes back (`Codec.plainBack`): the string
with its line ends as LF, in the same slot, but for three cases where the reader
decides the slot from the text: in 4.0 a telephone text that starts with `tel:`
is a URI, a place URI that is a geo URI becomes coordinates, and a `tel:` URI
written before 4.0 (as its number, the version knowing no telephone URIs) comes
back as text. A string written as it is comes back as written only when it holds
no backslash, since the reader unescapes it, and no line break. -/
namespace VCard

open Text

/-- Shapes whose values are one text: text, URIs, e-mail addresses and leveled
text. -/
def Shape.isTextual : Shape → Bool
  | .text .. | .uri _ | .email | .leveled _ => true
  | _ => false

/-- The string in the one slot of a value. -/
def Value.slotText : Value → String
  | .text s | .xml s => s.getD ""
  | .telephone (.text s) | .telephone (.uri s) | .related (.text s) | .related (.uri s)
  | .place (.text s) | .place (.uri s) | .raw s _ => s
  | _ => ""

namespace Codec

/-- A value of one text slot under the codec of its shape. -/
inductive Plain : Shape → Value → Prop
  | text {shape : Shape} (hs : shape.isTextual = true) (s : Option String) : Plain shape (.text s)
  | telText (s : String) : Plain .telephone (.telephone (.text s))
  | telUri (u : String) : Plain .telephone (.telephone (.uri u))
  | relatedText (s : String) : Plain .related (.related (.text s))
  | relatedUri (u : String) : Plain .related (.related (.uri u))
  | placeText (s : String) : Plain .place (.place (.text s))
  | placeUri (u : String) : Plain .place (.place (.uri u))
  | xml (d : String) : Plain .xml (.xml (some d))
  | raw (s : String) (dt : Option DataType) : Plain .raw (.raw s dt)

/-- Whether a codec writes a value's text as it is, for the reader to unescape:
a URI of a URI shape (but a `UID` before 4.0, which is text there), a `tel:` URI
in 4.0, and the URI of a related entity or a place. -/
def writesVerbatim (c : Codec) (x : Value) (v : Version) : Bool :=
  match c.shape, x with
  | .uri _, .text _ => c.defaultDataType v != some .text
  | _, .telephone (.uri _) => v == .v40
  | _, .related (.uri _) | _, .place (.uri _) => true
  | _, _ => false

/-- Whether a codec writes the line breaks of a value as they are: those of a
value written as it is, a URI or a raw value, and in 2.1, which escapes no line
break, those of any other text but an XML document, which is always escaped. -/
def keepsLineBreaks (c : Codec) (x : Value) (v : Version) : Bool :=
  match x with
  | .raw .. => true
  | .xml _ => false
  | _ => c.writesVerbatim x v || v == .v21

/-- The number a `tel:` URI is written as before 4.0: the URI without its scheme
and without the parameters after `;`. -/
def telNumber (u : String) : String :=
  let number := if startsWithNoCase u "tel:" then String.ofList (u.toList.drop 4) else u
  String.ofList (number.toList.takeWhile (· != ';'))

/-- The place a URI reads back as: its coordinates when it is a geo URI, else
the URI. -/
def placeOfUri (u : String) : Place :=
  if startsWithNoCase u "geo:" then
    match GeoUri.parse u with
    | .ok g => .geo g
    | .error _ => .uri u
  else .uri u

/-- What a value of one text slot comes back as, written in a version and read
back, given what the reader takes an announced data type for. -/
def plainBack (typeBack : DataType → DataType) (v : Version) : Value → Value
  | .text s => .text (some (lineFeeds (s.getD "")))
  | .telephone (.text s) =>
    if v == .v40 && startsWithNoCase (lineFeeds s) "tel:" then .telephone (.uri (lineFeeds s))
    else .telephone (.text (lineFeeds s))
  | .telephone (.uri u) => if v == .v40 then .telephone (.uri u) else .telephone (.text (lineFeeds (telNumber u)))
  | .related (.text s) => .related (.text (lineFeeds s))
  | .place (.text s) => .place (.text (lineFeeds s))
  | .place (.uri u) => .place (placeOfUri u)
  | .xml d => .xml (some (lineFeeds (d.getD "")))
  | .raw s dt => .raw s (dt.map typeBack)
  | x => x

/-- The data type announced for a value of one text slot: a URI where the
default is text, a text where it is a URI, and a raw value's own. -/
def plainType (v : Version) : Value → Option DataType
  | .telephone (.uri _) => if v == .v40 then some .uri else none
  | .related (.text _) => some .text
  | .place (.uri _) => some .uri
  | .raw _ dt => dt
  | _ => none

theorem mem_telNumber {u : String} {c : Char} (h : c ∈ (telNumber u).toList) : c ∈ u.toList := by
  unfold telNumber at h
  rw [String.toList_ofList] at h
  have h' := (List.takeWhile_sublist _).subset h
  split at h'
  · rw [String.toList_ofList] at h'
    exact List.mem_of_mem_drop h'
  · exact h'

/-! ### Reading each shape -/

section Shapes

variable (name : String) (pref : Bool) (t : String) (dt : Option DataType) (v : Version) (p : Params)
  (types : DataType.Registry)

theorem run'_readText_textual {shape : Shape} (hs : shape.isTextual = true) :
    ((⟨name, shape, pref⟩ : Codec).readText t dt).run' v p types = ⟨.value (.text (some (unescape t))), p, types, []⟩ := by
  cases shape <;> simp only [Shape.isTextual, Bool.false_eq_true] at hs <;> rfl

theorem run'_readText_telephone :
    ((⟨name, .telephone, pref⟩ : Codec).readText t dt).run' v p types =
      ⟨.value (if (dt == some .uri || (v == .v40 && startsWithNoCase (unescape t) "tel:")) = true
        then .telephone (.uri (unescape t)) else .telephone (.text (unescape t))), p, types, []⟩ := by
  unfold readText
  rw [run'_version_bind]
  dsimp only
  split <;> rfl

theorem run'_readText_related :
    ((⟨name, .related, pref⟩ : Codec).readText t dt).run' v p types =
      ⟨.value (.related (if dt == some .text then .text (unescape t) else .uri (unescape t))), p, types, []⟩ := rfl

theorem run'_readText_place :
    ((⟨name, .place, pref⟩ : Codec).readText t dt).run' v p types =
      ⟨.value (.place (if dt == some .uri then placeOfUri (unescape t) else .text (unescape t))), p, types, []⟩ := by
  unfold readText placeOfUri
  rw [run'_version_bind]
  dsimp only
  by_cases hu : (dt == some DataType.uri) = true
  · by_cases hg : startsWithNoCase (unescape t) "geo:" = true
    · cases GeoUri.parse (unescape t) <;> simp only [hu, hg, if_true] <;> rfl
    · simp only [hu, hg, Bool.false_eq_true, if_true, if_false]
      rfl
  · simp only [hu, Bool.false_eq_true, if_false]
    rfl

theorem run'_readText_xml {e : Xml.Element} (h : Xml.parse (unescape t) = .ok e) :
    ((⟨name, .xml, pref⟩ : Codec).readText t dt).run' v p types = ⟨.value (.xml (some (unescape t))), p, types, []⟩ := by
  unfold readText
  simp only [h]
  rfl

theorem run'_readText_raw :
    ((⟨name, .raw, pref⟩ : Codec).readText t dt).run' v p types = ⟨.value (.raw t dt), p, types, []⟩ := rfl

end Shapes

/-! ### Writing and reading back -/

theorem valueParameter_plain {c : Codec} {x : Value} (hx : Plain c.shape x) (v : Version) :
    c.valueParameter x v = plainType v x := by
  obtain ⟨name, shape, pref⟩ := c
  cases hx with
  | text hs s =>
    cases shape with
    | uri tb => cases tb <;> cases v <;> rfl
    | text dt h => simp [valueParameter, dataType, defaultDataType, plainType]
    | email | leveled _ => cases v <;> rfl
    | _ => simp [Shape.isTextual] at hs
  | raw s dt => cases dt <;> cases v <;> rfl
  | _ => cases v <;> rfl

/-- The empty text is no XML document. -/
theorem xml_parse_empty (e : Xml.Element) : Xml.parse "" ≠ .ok e := by
  intro h
  have hb : (Xml.parse "").toBool = false := rfl
  simp [h, Except.toBool] at hb

/-- **A value of one text slot reads back from the text it is written as.** The
text has no line break when the value's line breaks are escaped or it has none,
and it reads back, at the data type announced for it as the reader takes it or
at the version's default, as `plainBack` says, when a text written as it is for
the reader to unescape holds no backslash and an XML document, with its line
ends as LF, parses. -/
theorem readText_writeText_plain {c : Codec} {x : Value} (hx : Plain c.shape x) (v : Version)
    (hbreak : c.keepsLineBreaks x v = true → Unbroken x.slotText.toList)
    (hslash : c.writesVerbatim x v = true → '\\' ∉ x.slotText.toList)
    (hxml : ∀ d, x = .xml (some d) → ∃ e, Xml.parse (lineFeeds d) = .ok e)
    {typeBack : DataType → DataType} (hback : ∀ d, d.isExtension = false → typeBack d = d) :
    ∃ t, (c.writeText x v).run' = (.ok (.written t), []) ∧ Unbroken t.toList ∧
      ∀ p types, (c.readText t (((c.valueParameter x v).map typeBack).orElse fun _ => c.defaultDataType v)).run'
        v p types = ⟨.value (plainBack typeBack v x), p, types, []⟩ := by
  rw [valueParameter_plain hx]
  obtain ⟨name, shape, pref⟩ := c
  -- text escaped for the version has no line break and reads back with LF line ends
  have escaped : ∀ s, (v = .v21 → Unbroken s.toList) →
      Unbroken (escapeFor v s).toList ∧ unescape (escapeFor v s) = lineFeeds s :=
    fun s h => ⟨Vcf.unbroken_escapeFor h, Vcf.unescape_escapeFor h⟩
  -- text written as it is reads back as itself
  have verbatim : ∀ s, '\\' ∉ s.toList → Unbroken s.toList → unescape s = s ∧ lineFeeds s = s :=
    fun s h h' => ⟨Vcf.unescape_of_forall h, lineFeeds_of_unbroken h'⟩
  cases hx with
  | text hs s =>
    have hread : ∀ t, unescape t = lineFeeds (s.getD "") → ∀ dt p types,
        ((⟨name, shape, pref⟩ : Codec).readText t dt).run' v p types =
          ⟨.value (plainBack typeBack v (.text s)), p, types, []⟩ := fun t ht dt p types => by
      rw [run'_readText_textual _ _ _ _ _ _ _ hs, ht]
      rfl
    have h21 : v = .v21 → Unbroken (s.getD "").toList := fun h =>
      hbreak (by simp [keepsLineBreaks, h])
    cases shape with
    | uri tb =>
      cases hd : ((⟨name, .uri tb, pref⟩ : Codec).defaultDataType v == some .text)
      · -- a URI is written as it is
        have hv : writesVerbatim ⟨name, .uri tb, pref⟩ (.text s) v = true := by
          simp only [writesVerbatim, bne, hd, Bool.not_false]
        have hu : Unbroken (s.getD "").toList := hbreak (by simp [keepsLineBreaks, hv])
        obtain ⟨h1, h2⟩ := verbatim _ (hslash hv) hu
        refine ⟨s.getD "", ?_, hu, fun p types => hread _ (h1.trans h2.symm) _ p types⟩
        simp only [writeText, hd, Bool.false_eq_true, if_false]
        rfl
      · obtain ⟨hu, he⟩ := escaped _ h21
        refine ⟨_, ?_, hu, fun p types => hread _ he _ p types⟩
        simp only [writeText, hd, if_true]
        rfl
    | text dt h | email | leveled ls =>
      obtain ⟨hu, he⟩ := escaped _ h21
      exact ⟨_, rfl, hu, fun p types => hread _ he _ p types⟩
    | _ => simp [Shape.isTextual] at hs
  | telText s =>
    obtain ⟨hu, he⟩ := escaped s fun h => hbreak (by simp [keepsLineBreaks, h])
    refine ⟨_, rfl, hu, fun p types => ?_⟩
    rw [run'_readText_telephone, he]
    rfl
  | telUri u =>
    by_cases h40 : v = .v40
    · subst h40
      have hv : writesVerbatim ⟨name, .telephone, pref⟩ (.telephone (.uri u)) .v40 = true := rfl
      obtain ⟨h1, -⟩ := verbatim u (hslash hv) (hbreak (by simp [keepsLineBreaks, hv]))
      refine ⟨u, rfl, hbreak (by simp [keepsLineBreaks, hv]), fun p types => ?_⟩
      rw [run'_readText_telephone, h1]
      simp [plainType, plainBack, hback .uri rfl]
    · -- before 4.0 a telephone URI is written as its number, as text
      have hnum : v = .v21 → Unbroken (telNumber u).toList := fun h c hc =>
        hbreak (by simp [keepsLineBreaks, h]) c (mem_telNumber hc)
      obtain ⟨hu, he⟩ := escaped _ hnum
      have hdt : defaultDataType ⟨name, .telephone, pref⟩ v = some .text := by cases v <;> rfl
      have h40' : (v == .v40) = false := by simpa using h40
      refine ⟨escapeFor v (telNumber u), ?_, hu, fun p types => ?_⟩
      · simp only [writeText, h40', Bool.false_eq_true, if_false]
        rfl
      · rw [run'_readText_telephone, he]
        simp [plainType, plainBack, hdt, h40']
  | relatedText s =>
    obtain ⟨hu, he⟩ := escaped s fun h => hbreak (by simp [keepsLineBreaks, h])
    refine ⟨_, rfl, hu, fun p types => ?_⟩
    rw [run'_readText_related, he, plainType, Option.map_some, hback _ rfl]
    rfl
  | relatedUri u =>
    have hv : writesVerbatim ⟨name, .related, pref⟩ (.related (.uri u)) v = true := rfl
    have hu := hbreak (by simp [keepsLineBreaks, hv])
    obtain ⟨h1, -⟩ := verbatim u (hslash hv) hu
    refine ⟨u, rfl, hu, fun p types => ?_⟩
    rw [run'_readText_related, h1]
    rfl
  | placeText s =>
    obtain ⟨hu, he⟩ := escaped s fun h => hbreak (by simp [keepsLineBreaks, h])
    refine ⟨_, rfl, hu, fun p types => ?_⟩
    rw [run'_readText_place, he]
    rfl
  | placeUri u =>
    have hv : writesVerbatim ⟨name, .place, pref⟩ (.place (.uri u)) v = true := rfl
    have hu := hbreak (by simp [keepsLineBreaks, hv])
    obtain ⟨h1, -⟩ := verbatim u (hslash hv) hu
    refine ⟨u, rfl, hu, fun p types => ?_⟩
    rw [run'_readText_place, h1, plainType, Option.map_some, hback _ rfl]
    rfl
  | xml d =>
    -- a document is escaped in every version; it is not empty, since it parses
    obtain ⟨e, hparse⟩ := hxml d rfl
    have hd : d.isEmpty = false := by
      cases h : d.isEmpty
      · rfl
      · rw [String.isEmpty_iff.mp h] at hparse
        exact absurd hparse (xml_parse_empty e)
    have he : unescape (escape d) = lineFeeds d := by
      rw [unescape, escape, String.toList_ofList, unescapeChars_escapeChars, lineFeeds]
    refine ⟨escape d, ?_, unbroken_escape d, fun p types => ?_⟩
    · simp only [writeText, hd, Bool.false_eq_true, if_false]
      rfl
    rw [run'_readText_xml _ _ _ _ _ _ _ (he ▸ hparse), he]
    rfl
  | raw s dt =>
    refine ⟨s, rfl, hbreak rfl, fun p types => ?_⟩
    rw [run'_readText_raw]
    cases dt <;> rfl

theorem plainType_name {s : Shape} {x : Value} (hx : Plain s x) (v : Version)
    (htype : ∀ t d, x = .raw t (some d) → d.name ≠ "") : ∀ d ∈ plainType v x, d.name ≠ "" := by
  intro d hd
  cases hx
  case raw t dt =>
    change d ∈ dt at hd
    exact htype t d (by rw [Option.mem_def.mp hd])
  case telUri u =>
    change d ∈ (if v == .v40 then some DataType.uri else none) at hd
    split at hd
    · obtain rfl := Option.mem_some_iff.mp hd
      decide
    · exact absurd hd (Option.not_mem_none _)
  case relatedText s' =>
    obtain rfl := Option.mem_some_iff.mp hd
    decide
  case placeUri u =>
    obtain rfl := Option.mem_some_iff.mp hd
    decide
  all_goals exact absurd hd (Option.not_mem_none _)

theorem plainBack_ne_label (typeBack : DataType → DataType) (v : Version) {s : Shape} {x : Value}
    (hx : Plain s x) (l : Option String) : plainBack typeBack v x ≠ .label l := by
  cases hx
  case telText s' | telUri s' =>
    simp only [plainBack]
    split <;> simp
  all_goals simp [plainBack]

end Codec

namespace Vcf

open ContentLine Codec Params

/-! ### A property of one text slot on a card -/

theorem codecForProperty_of_unregistered {ix : CodecIndex} {p : Property}
    (hraw : ∀ s dt, p.value = .raw s dt → ix.has p.name = false) : ix.codecForProperty p = ix.codecFor p.name := by
  unfold CodecIndex.codecForProperty
  split
  · next s dt h => rw [ix.codecFor_of_not_has _ (hraw s dt h)]
  · rfl

/-- A value of one text slot is written with its property's parameters, with
preference translated. -/
theorem mem_prepareParams_plain {c : Codec} {prop : Property} (hx : Plain c.shape prop.value) {self : Option Nat}
    {v : Version} {card : Option Card} {e : String × String} (he : e ∈ (c.prepareParams prop self v card).entries) :
    e ∈ prop.params.entries ∨ e = ("PREF", "1") ∨ e = ("TYPE", "pref") := by
  have hown : ∀ q, c.prepareOwn prop.value q v = q := by
    obtain ⟨name, shape, pref⟩ := c
    generalize prop.value = x at hx ⊢
    cases hx
    case text hs s => intro q; cases shape <;> rfl
    all_goals intro q; rfl
  unfold prepareParams at he
  rw [hown] at he
  split at he
  · exact mem_preferenceFor he
  · exact .inl he

theorem portable_prepareParams_plain {c : Codec} {prop : Property} (hx : Plain c.shape prop.value)
    (hp : prop.params.Portable) (self : Option Nat) (v : Version) (card : Option Card) :
    (c.prepareParams prop self v card).Portable := by
  refine Portable.of_entries fun e he => ?_
  rcases mem_prepareParams_plain hx he with h | rfl | rfl
  · exact hp.entry h
  · exact portableEntry_name (by decide) (by decide) (by decide) (by decide)
  · exact ⟨by decide, (isNameChars_iff _).mp (by decide), by decide, fun _ => by decide⟩

theorem getAll_prepareParams_plain_eq_nil {c : Codec} {prop : Property} (hx : Plain c.shape prop.value)
    {self : Option Nat} {v : Version} {card : Option Card} {n : String} (hn : prop.params.getAll n = [])
    (hpref : key n ≠ "PREF") (htype : key n ≠ "TYPE") : (c.prepareParams prop self v card).getAll n = [] := by
  rw [getAll_eq_nil_iff] at hn ⊢
  intro e he
  rcases mem_prepareParams_plain hx he with h | rfl | rfl
  · exact hn e h
  · exact Ne.symm hpref
  · exact Ne.symm htype

/-- Only an address has a label line. -/
theorem labelOf_of_ne_address {p : Property} (hna : ∀ a, p.value ≠ .address a) : labelOf p = none := by
  unfold labelOf
  split
  · rfl
  · split
    · next a ha => exact absurd ha (hna a)
    · rfl

/-- A value of one text slot is no address, so it has no label line. -/
theorem labelOf_plain {p : Property} {s : Shape} (hx : Plain s p.value) : labelOf p = none :=
  labelOf_of_ne_address fun a h => by
    rw [h] at hx
    cases hx

/-- A work telephone given as a `tel:` URI with a parameter. -/
def workPhone : Property := Property.make "TEL" (.telephone (.uri "tel:+1-555-0100;ext=7"))

-- 3.0 has no telephone URIs: the number is written alone, its parameter dropped
example : ({ version := .v30 } : Writer).propertyLine? { properties := [workPhone] } (some 0) workPhone =
    some "TEL:+1-555-0100" := by
  decide +kernel

end Vcf

end VCard
