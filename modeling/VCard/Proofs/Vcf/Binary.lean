import Mathlib
import VCard.Proofs.Vcf.Plain
import VCard.Proofs.Encoding.Base64
import VCard.Proofs.Text.Case
/-! Binary content written and read back.

Photos, logos, sounds and keys hold binary content in one slot: a URL, inline
bytes, or, for a key, a text. A URL is written as it is, a text escaped, and the
bytes as a data URI in 4.0 and as base64 announced by `ENCODING` before. The
media type goes in `MEDIATYPE` in 4.0, for a URL or a text, and before 4.0 in a
`TYPE` word (`MediaType.typeNameFor`). Reading decides the slot in turn: a value
that starts with `data:` is a data URI whatever was announced, then a URL or a
text by the announced data type, then base64 by `ENCODING`
(`run'_readBinary_url` and its siblings, one per way out).

`readText_writeText_binary` follows the content through its text and parameters
and `binary_round_trip` through a whole card: `binaryBack` says what comes back.
The content type comes back through the `TYPE` word before 4.0, and in 4.0 inline
bytes come back with the media type their data URI names, which is
`application/octet-stream` when there was none. `Binary.Readable` gathers what
the content must satisfy; without it a URL that starts with `data:` is read as
inline bytes (`dataUrl_reads_as_data`). -/
namespace VCard

open Text

namespace Binary

/-- The media type binary content is written with: its content type, unless empty. -/
def writtenType (b : Binary) : Option String := b.contentType.bind fun t => if t.isEmpty then none else some t

/-- The media type a 4.0 data URI names: the content type, or `application/octet-stream`. -/
def dataUriType (b : Binary) : String := b.writtenType.getD DataUri.defaultMediaType

theorem ne_empty_of_mem_writtenType {b : Binary} {t : String} (h : t ∈ b.writtenType) : t ≠ "" := by
  unfold writtenType at h
  rw [Option.mem_def, Option.bind_eq_some_iff] at h
  obtain ⟨t', -, ht⟩ := h
  split at ht
  · cases ht
  · next hne =>
    rintro rfl
    exact hne (by rw [Option.some.inj ht]; rfl)

theorem dataUriType_ne_empty (b : Binary) : b.dataUriType ≠ "" := by
  unfold dataUriType
  cases h : b.writtenType with
  | none => decide
  | some t => exact ne_empty_of_mem_writtenType h

/-- What binary content needs to read back from its line in a version, by a
codec that takes text or not: before 4.0 the `TYPE` word of its media type is a
parameter value; a URL is written as it is, so it has no line break and no
backslash, and it reads as no data URI; a text, for a codec that takes one, has
no line break when 2.1 writes it so, and reads as no data URI either; and in 4.0
the media type of inline data has no line break, backslash, comma or semicolon,
so that the data URI keeps it whole. -/
def Readable (b : Binary) (v : Version) (textAllowed : Bool) : Prop :=
  (v ≠ .v40 → ∀ t ∈ b.writtenType, MediaType.typeNameFor t ≠ "" ∧ ',' ∉ (MediaType.typeNameFor t).toList) ∧
  match b.source with
  | .url u => Unbroken u.toList ∧ '\\' ∉ u.toList ∧ startsWithNoCase (trim u) "data:" = false
  | .text s => textAllowed = true ∧ (v = .v21 → Unbroken s.toList) ∧
      startsWithNoCase (trim (lineFeeds s)) "data:" = false
  | .data _ => v = .v40 → Unbroken b.dataUriType.toList ∧ ∀ c ∈ b.dataUriType.toList, c ≠ '\\' ∧ c ≠ ',' ∧ c ≠ ';'
  | .empty => False

end Binary

namespace Codec

/-- The media type `binaryContentType` finds among parameters: the first
`MEDIATYPE`, or before 4.0 the media type of the first `TYPE` word. -/
def contentTypeIn (v : Version) (P : Params) : Option String :=
  match P.getAll "MEDIATYPE" with
  | m :: _ => some m
  | [] => if v == .v40 then none else (P.getAll "TYPE").head?.map MediaType.mediaTypeFor

/-- The parameters `binaryContentType` leaves: those without `MEDIATYPE`, and
before 4.0, when there was no `MEDIATYPE`, without `TYPE` either. -/
def paramsAfterContentType (v : Version) (P : Params) : Params :=
  match P.getAll "MEDIATYPE" with
  | _ :: _ => P.erase "MEDIATYPE"
  | [] => if v == .v40 then P.erase "MEDIATYPE" else (P.erase "MEDIATYPE").erase "TYPE"

section Run

variable (v : Version) (P : Params)

theorem run'_takeParam_bind (types : DataType.Registry) (n : String) (f : List String → ReadM Value) :
    (ReadM.takeParam n >>= f).run' v P types = (f (P.getAll n)).run' v (P.erase n) types := rfl

theorem run'_binaryContentType_bind (types : DataType.Registry) (f : Option String → ReadM Value) :
    (binaryContentType >>= f).run' v P types = (f (contentTypeIn v P)).run' v (paramsAfterContentType v P) types := by
  unfold binaryContentType contentTypeIn paramsAfterContentType
  rw [bind_assoc, run'_takeParam_bind]
  cases hm : P.getAll "MEDIATYPE" with
  | cons m ms => rfl
  | nil =>
    cases v with
    | v40 => rfl
    | v21 | v30 =>
      rw [← Params.getAll_erase_ne P (show Params.key "TYPE" ≠ Params.key "MEDIATYPE" by decide)]
      rfl

theorem getAll_paramsAfterContentType_encoding :
    (paramsAfterContentType v P).getAll "ENCODING" = P.getAll "ENCODING" := by
  have h : (P.erase "MEDIATYPE").getAll "ENCODING" = P.getAll "ENCODING" := Params.getAll_erase_ne P (by decide)
  unfold paramsAfterContentType
  split
  · exact h
  · split
    · exact h
    · exact (Params.getAll_erase_ne _ (by decide)).trans h

theorem readText_binary {n : String} {ta pref : Bool} (t : String) (dt : Option DataType) :
    (⟨n, .binary ta, pref⟩ : Codec).readText t dt = readBinary ta t dt := by
  unfold readText
  rfl

theorem run'_readBinary_url (ta : Bool) {t : String} {dt : Option DataType}
    (hdata : startsWithNoCase (trim (unescape t)) "data:" = false)
    (hdt : (dt == some .uri || dt == some .url || dt == some .contentId) = true) :
    ∃ q, ∀ types, (readBinary ta t dt).run' v P types =
      ⟨.value (.binary ⟨.url (trim (unescape t)), contentTypeIn v P⟩), q, types, []⟩ := by
  apply Exists.intro
  intro types
  unfold readBinary
  dsimp only
  rw [run'_binaryContentType_bind, run'_takeParam_bind]
  simp only [hdata, hdt, Bool.false_eq_true, if_false, if_true]
  rfl

theorem run'_readBinary_text {ta : Bool} {t : String} {dt : Option DataType}
    (hdata : startsWithNoCase (trim (unescape t)) "data:" = false) (hdt : dt = some .text) (hta : ta = true) :
    ∃ q, ∀ types, (readBinary ta t dt).run' v P types =
      ⟨.value (.binary ⟨.text (trim (unescape t)), contentTypeIn v P⟩), q, types, []⟩ := by
  subst hdt hta
  apply Exists.intro
  intro types
  unfold readBinary
  dsimp only
  rw [run'_binaryContentType_bind, run'_takeParam_bind]
  simp only [hdata, Bool.false_eq_true, if_false]
  rfl

theorem run'_readBinary_dataUri (ta : Bool) {t : String} (dt : Option DataType) {uri : DataUri}
    (hdata : startsWithNoCase (trim (unescape t)) "data:" = true) (hparse : DataUri.parse (trim (unescape t)) = .ok uri) :
    ∃ q, ∀ types, (readBinary ta t dt).run' v P types =
      ⟨.value (.binary ⟨.data uri.data, uri.mediaType.orElse fun _ => contentTypeIn v P⟩), q, types, []⟩ := by
  apply Exists.intro
  intro types
  unfold readBinary
  dsimp only
  rw [run'_binaryContentType_bind, run'_takeParam_bind]
  simp only [hdata, hparse, if_true]
  rfl

theorem run'_readBinary_base64 {ta : Bool} {t : String} {dt : Option DataType} {e : String} {es : List String}
    {d : List UInt8} (hdata : startsWithNoCase (trim (unescape t)) "data:" = false)
    (hdt : (dt == some .uri || dt == some .url || dt == some .contentId) = false)
    (htext : (dt == some .text && ta) = false) (henc : P.getAll "ENCODING" = e :: es)
    (he : lower e = "b" ∨ lower e = "base64")
    (hdecode : Encoding.decodeBase64 (String.ofList ((trim (unescape t)).toList.filter (!isBlank ·))) = .ok d) :
    ∃ q, ∀ types, (readBinary ta t dt).run' v P types =
      ⟨.value (.binary ⟨.data d, contentTypeIn v P⟩), q, types, []⟩ := by
  have hwarn : (lower e != "b" && lower e != "base64") = false := by
    rcases he with h | h <;> simp [h]
  apply Exists.intro
  intro types
  unfold readBinary
  dsimp only
  rw [run'_binaryContentType_bind, run'_takeParam_bind, getAll_paramsAfterContentType_encoding, henc]
  simp only [hdata, hdt, htext, hwarn, Bool.false_eq_true, if_false]
  unfold readBase64
  simp only [hdecode]
  rfl

end Run

/-! ### Written binary content as the reader sees it -/

theorem lower_data : lower "data:" = "data:" := by decide

/-- Text that starts with `data:` in any case lowers to a text with a colon. -/
theorem colon_of_startsWithNoCase {s : String} (h : startsWithNoCase s "data:" = true) : ':' ∈ (lower s).toList := by
  unfold startsWithNoCase at h
  rw [lower_data] at h
  exact (List.isPrefixOf_iff_prefix.mp h).subset (by decide)

theorem startsWithNoCase_encodeBase64 (d : List UInt8) :
    startsWithNoCase (Encoding.encodeBase64 d) "data:" = false := by
  cases h : startsWithNoCase (Encoding.encodeBase64 d) "data:"
  · rfl
  · have hcolon := colon_of_startsWithNoCase h
    rw [lower, String.toList_ofList,
      lowerAfter_of_ascii _ fun c hc => (Encoding.safeChar_of_mem_encodeBase64 hc).ascii, lowerChars,
      List.mem_flatMap] at hcolon
    obtain ⟨c, hc, hlow⟩ := hcolon
    have hsafe := Encoding.safeChar_of_mem_encodeBase64 hc
    rcases mem_lowerChar_of_ascii hsafe.ascii hlow with h | ⟨hA, hZ, h32⟩
    · exact absurd h.symm hsafe.not_colon
    · change 58 = c.toNat + 32 at h32
      omega

theorem unescape_encodeBase64 (d : List UInt8) : unescape (Encoding.encodeBase64 d) = Encoding.encodeBase64 d :=
  Vcf.unescape_of_forall fun h => (Encoding.safeChar_of_mem_encodeBase64 h).not_backslash rfl

theorem trim_encodeBase64 (d : List UInt8) : trim (Encoding.encodeBase64 d) = Encoding.encodeBase64 d := by
  have h : ∀ c ∈ (Encoding.encodeBase64 d).toList, isBlank c = false :=
    fun c hc => (Encoding.safeChar_of_mem_encodeBase64 hc).not_blank
  rw [trim, trimChars_of_ends (fun c hc => h c (List.mem_of_mem_head? hc)) (fun c hc => h c (List.mem_of_getLast? hc)),
    String.ofList_toList]

theorem unbroken_of_not_blank {cs : List Char} (h : ∀ c ∈ cs, isBlank c = false) : Unbroken cs := by
  intro c hc
  constructor <;> rintro rfl <;> exact absurd (h _ hc) (by decide)

theorem startsWithNoCase_dataUri (m : String) (d : List UInt8) :
    startsWithNoCase (DataUri.text ⟨some m, d⟩) "data:" = true := by
  unfold startsWithNoCase
  rw [lower_data, lower, String.toList_ofList, String.toList_ofList, DataUri.text_toList,
    show "data:".toList = ['d', 'a', 't', 'a', ':'] from rfl]
  rfl

/-- The characters of a written data URI: those of its scheme and base64 marker,
of its media type, and of its payload. -/
theorem mem_dataUri {m : String} {d : List UInt8} {c : Char} (h : c ∈ (DataUri.text ⟨some m, d⟩).toList) :
    c ∈ ['d', 'a', 't', 'a', ':', ';', 'b', 's', 'e', '6', '4', ','] ∨ c ∈ m.toList ∨
      c ∈ (Encoding.encodeBase64 d).toList := by
  rw [DataUri.text_toList, show "data:".toList = ['d', 'a', 't', 'a', ':'] from rfl,
    show ";base64".toList = [';', 'b', 'a', 's', 'e', '6', '4'] from rfl] at h
  simp only [List.mem_append] at h
  rcases h with h | (h | h) | h
  · exact .inl (List.subset_def.1 (by simp) h)
  · exact .inr (.inl h)
  · exact .inl (List.subset_def.1 (by simp) h)
  · rcases List.mem_cons.1 h with rfl | h
    · exact .inl (by simp)
    · exact .inr (.inr h)

theorem unescape_dataUri {m : String} (d : List UInt8) (hm : '\\' ∉ m.toList) :
    unescape (DataUri.text ⟨some m, d⟩) = DataUri.text ⟨some m, d⟩ := by
  refine Vcf.unescape_of_forall fun h => ?_
  rcases mem_dataUri h with h | h | h
  · exact absurd h (by simp)
  · exact hm h
  · exact (Encoding.safeChar_of_mem_encodeBase64 h).not_backslash rfl

theorem unbroken_dataUri {m : String} (d : List UInt8) (hm : Unbroken m.toList) :
    Unbroken (DataUri.text ⟨some m, d⟩).toList := by
  intro c hc
  rcases mem_dataUri hc with h | h | h
  · have hlit : ∀ x ∈ ['d', 'a', 't', 'a', ':', ';', 'b', 's', 'e', '6', '4', ','], x ≠ '\r' ∧ x ≠ '\n' := by
      simp
    exact hlit c h
  · exact hm c h
  · exact unbroken_of_not_blank (fun c hc => (Encoding.safeChar_of_mem_encodeBase64 hc).not_blank) c h

theorem trim_dataUri (m : String) (d : List UInt8) : trim (DataUri.text ⟨some m, d⟩) = DataUri.text ⟨some m, d⟩ := by
  rw [trim, DataUri.trimChars_text, String.ofList_toList]

end Codec

namespace Params

theorem Portable.set {p : Params} (hp : p.Portable) {n : String} {v : Option String}
    (h : ∀ x ∈ v, PortableEntry (key n, x)) : (p.set n v).Portable :=
  Portable.of_entries fun _ he => (mem_set he).elim hp.entry fun ⟨x, hx, he⟩ => he ▸ h x hx

theorem Portable.put {p : Params} (hp : p.Portable) {n v : String} (h : PortableEntry (key n, v)) :
    (p.put n v).Portable :=
  Portable.of_entries fun _ he => (mem_put he).elim hp.entry fun he => he ▸ h

end Params

namespace Vcf

open ContentLine Codec Params

namespace Writer

/-- The content type binary content comes back with when no data URI names it:
in 4.0 its `MEDIATYPE` as the reader decodes it, before 4.0 the media type of
the `TYPE` word written for it, as decoded. -/
def typeBack (w : Writer) (b : Binary) : Option String :=
  if w.version == .v40 then b.writtenType.map w.paramValueReadBack
  else b.writtenType.map fun t => MediaType.mediaTypeFor (w.paramValueReadBack (MediaType.typeNameFor t))

/-- What binary content comes back as, written and read back by a reader with
the writer's caret setting: a URL trimmed, a text with its line ends as LF and
trimmed, the same bytes, and the content type `typeBack` gives, but that 4.0
inline data comes back with the media type its data URI names. -/
def binaryBack (w : Writer) (b : Binary) : Binary :=
  match b.source with
  | .url u => ⟨.url (trim u), w.typeBack b⟩
  | .text s => ⟨.text (trim (lineFeeds s)), w.typeBack b⟩
  | .data d => ⟨.data d, if w.version == .v40 then some b.dataUriType else w.typeBack b⟩
  | .empty => b

end Writer

theorem getAll_paramsReadBack (w : Writer) (P : Params) {m : String} (hm : key m = m) (hv : key m ≠ key "VALUE") :
    ((w.paramsReadBack P).erase "VALUE").getAll m = (P.getAll m).map w.paramValueReadBack := by
  rw [getAll_erase_ne _ hv]
  exact getAll_regroup _ _ hm

section Prepared

variable (w : Writer) {n : String} {ta pref : Bool} (b : Binary) (q : Params) (vp : Option DataType)

theorem writtenType_eq : (b.contentType.bind fun t => if t.isEmpty = true then none else some t) = b.writtenType := rfl

theorem getAll_prepareOwn_mediaType (v : Version) :
    ((⟨n, .binary ta, pref⟩ : Codec).prepareOwn (.binary b) q v).getAll "MEDIATYPE" =
      if v = .v40 ∧ b.data? = none then b.writtenType.toList else [] := by
  unfold prepareOwn
  dsimp only
  rw [writtenType_eq]
  cases v <;> cases b.writtenType <;> cases b.data? <;>
    simp +decide (disch := decide) [getAll_erase_ne, getAll_erase_self, getAll_set_self, getAll_set_ne, addType,
      getAll_put_other]

theorem getAll_prepareOwn_type {v : Version} (hv : v ≠ .v40) :
    ((⟨n, .binary ta, pref⟩ : Codec).prepareOwn (.binary b) q v).getAll "TYPE" =
      b.writtenType.toList.map MediaType.typeNameFor := by
  unfold prepareOwn
  dsimp only
  rw [writtenType_eq]
  cases v <;> cases b.writtenType <;> cases b.data? <;>
    simp +decide (disch := decide) [getAll_erase_self, getAll_set_ne, addType, getAll_put_self] at hv ⊢

theorem getAll_prepareOwn_encoding (v : Version) :
    ((⟨n, .binary ta, pref⟩ : Codec).prepareOwn (.binary b) q v).getAll "ENCODING" =
      if v ≠ .v40 ∧ b.data?.isSome then [if v = .v21 then "BASE64" else "b"] else [] := by
  unfold prepareOwn
  dsimp only
  rw [writtenType_eq]
  cases v <;> cases b.writtenType <;> cases b.data? <;>
    simp +decide (disch := decide) [getAll_erase_ne, getAll_erase_self, getAll_set_self, getAll_set_ne, addType,
      getAll_put_other]

/-- Binary content is read at the data type it is written with: the one
announced, as the reader takes it back, or else the version's default. -/
theorem readType_binary :
    (((⟨n, .binary ta, pref⟩ : Codec).valueParameter (.binary b) w.version).map w.typeReadBack).orElse
      (fun _ => (⟨n, .binary ta, pref⟩ : Codec).defaultDataType w.version) =
      (⟨n, .binary ta, pref⟩ : Codec).dataType (.binary b) w.version := by
  obtain ⟨source, ct⟩ := b
  cases w.version <;> cases source <;>
    simp [valueParameter, dataType, defaultDataType, uriType, Binary.url?, Binary.text?]
  -- what is left is a known type announced, which reads back as itself
  all_goals exact w.typeReadBack_known rfl

theorem portable_prepareOwn_binary {v : Version} (hq : q.Portable)
    (htype : v ≠ .v40 → ∀ t ∈ b.writtenType, MediaType.typeNameFor t ≠ "" ∧ ',' ∉ (MediaType.typeNameFor t).toList) :
    ((⟨n, .binary ta, pref⟩ : Codec).prepareOwn (.binary b) q v).Portable := by
  have hbase : ((q.erase "ENCODING").erase "MEDIATYPE").Portable := (hq.erase _).erase _
  unfold prepareOwn
  dsimp only
  rw [writtenType_eq]
  split
  · -- 4.0 names the media type of a URL or a text in `MEDIATYPE`
    split
    · next t ht =>
      split
      · refine hbase.set fun x hx => ?_
        obtain rfl := Option.mem_some_iff.mp hx
        exact portableEntry_name (by decide) (by decide) (Binary.ne_empty_of_mem_writtenType ht) (by decide)
      · exact hbase
    · exact hbase
  · -- before 4.0 it is a `TYPE` word, and inline data is announced by `ENCODING`
    next hv =>
    have hv' : v ≠ .v40 := by simpa using hv
    have htyped : ∀ t ∈ b.writtenType,
        ((((q.erase "ENCODING").erase "MEDIATYPE").erase "TYPE").addType (MediaType.typeNameFor t)).Portable := by
      intro t ht
      obtain ⟨hne, hcomma⟩ := htype hv' t ht
      have hkey : key "TYPE" = "TYPE" := by decide
      refine (hbase.erase _).put ⟨?_, ?_, hne, fun _ => hcomma⟩
      · show key (key "TYPE") = key "TYPE"
        rw [hkey, hkey]
      · show IsName (key "TYPE")
        rw [hkey]
        exact (isNameChars_iff _).mp (by decide)
    have hencoding : ∀ P : Params, P.Portable →
        (if b.data?.isSome then P.set "ENCODING" (some (if v == .v21 then "BASE64" else "b")) else P).Portable := by
      intro P hP
      split
      · refine hP.set fun x hx => ?_
        obtain rfl := Option.mem_some_iff.mp hx
        exact portableEntry_name (by decide) (by decide) (by split <;> decide) (by decide)
      · exact hP
    cases hw : b.writtenType with
    | none => exact hencoding _ (hbase.erase _)
    | some t => exact hencoding _ (htyped t hw)

theorem contentTypeIn_binary (hdata : w.version = .v40 → b.data? = none) :
    contentTypeIn w.version ((w.paramsReadBack
      (((⟨n, .binary ta, pref⟩ : Codec).prepareOwn (.binary b) q w.version).setValueType vp)).erase "VALUE") =
      w.typeBack b := by
  unfold contentTypeIn
  rw [getAll_paramsReadBack w _ (by decide) (by decide), getAll_setValueType_ne _ _ (by decide),
    getAll_prepareOwn_mediaType]
  unfold Writer.typeBack
  by_cases h40 : w.version = .v40
  · rw [if_pos ⟨h40, hdata h40⟩, h40]
    cases b.writtenType <;> rfl
  · rw [if_neg (fun h => h40 h.1), getAll_paramsReadBack w _ (by decide) (by decide),
      getAll_setValueType_ne _ _ (by decide), getAll_prepareOwn_type _ _ h40]
    have h40' : (w.version == .v40) = false := by simpa using h40
    simp only [List.map_nil, h40', Bool.false_eq_true, if_false]
    cases b.writtenType <;> rfl

/-- The `ENCODING` of inline data reads back as written. -/
theorem paramValueReadBack_encoding (v : Version) :
    w.paramValueReadBack (if v = .v21 then "BASE64" else "b") = if v = .v21 then "BASE64" else "b" := by
  unfold Writer.paramValueReadBack
  split <;> split <;> rfl

/-- **Binary content reads back from the text it is written as**, as
`binaryBack` says, when it is `Readable`: the text has no line break, and read at
the data type it is written with, among the parameters it is written with as
the reader finds them, it gives that content without a warning. -/
theorem readText_writeText_binary {b : Binary} (hb : b.Readable w.version ta) :
    ∃ t, ((⟨n, .binary ta, pref⟩ : Codec).writeText (.binary b) w.version).run' = (.ok (.written t), []) ∧
      Unbroken t.toList ∧ ∀ q, ∃ q', ∀ types,
        ((⟨n, .binary ta, pref⟩ : Codec).readText t
            ((⟨n, .binary ta, pref⟩ : Codec).dataType (.binary b) w.version)).run' w.version
          ((w.paramsReadBack
            (((⟨n, .binary ta, pref⟩ : Codec).prepareOwn (.binary b) q w.version).setValueType vp)).erase "VALUE")
          types = ⟨.value (.binary (w.binaryBack b)), q', types, []⟩ := by
  obtain ⟨htype, hsrc⟩ := hb
  obtain ⟨source, ct⟩ := b
  cases source with
  | empty => exact hsrc.elim
  | url u =>
    obtain ⟨hu, hslash, hdata⟩ := hsrc
    have hvalue : trim (unescape u) = trim u := by rw [Vcf.unescape_of_forall hslash]
    have hdata' : startsWithNoCase (trim (unescape u)) "data:" = false := by rw [hvalue]; exact hdata
    have hdt : (some (uriType w.version) == some .uri || some (uriType w.version) == some .url ||
        some (uriType w.version) == some .contentId) = true := by
      cases w.version <;> rfl
    refine ⟨u, rfl, hu, fun q => ?_⟩
    obtain ⟨q', h⟩ := run'_readBinary_url w.version ((w.paramsReadBack
      (((⟨n, .binary ta, pref⟩ : Codec).prepareOwn (.binary ⟨.url u, ct⟩) q w.version).setValueType vp)).erase "VALUE")
      ta hdata' hdt
    refine ⟨q', fun types => ?_⟩
    rw [readText_binary, show (⟨n, .binary ta, pref⟩ : Codec).dataType (.binary ⟨.url u, ct⟩) w.version =
      some (uriType w.version) from rfl, h types, hvalue,
      contentTypeIn_binary w _ q vp fun _ => rfl]
    rfl
  | text s =>
    obtain ⟨hta, h21, hdata⟩ := hsrc
    have hvalue : trim (unescape (escapeFor w.version s)) = trim (lineFeeds s) := by
      rw [Vcf.unescape_escapeFor h21]
    have hdata' : startsWithNoCase (trim (unescape (escapeFor w.version s))) "data:" = false := by
      rw [hvalue]
      exact hdata
    refine ⟨escapeFor w.version s, rfl, Vcf.unbroken_escapeFor h21, fun q => ?_⟩
    obtain ⟨q', h⟩ := run'_readBinary_text w.version ((w.paramsReadBack
      (((⟨n, .binary ta, pref⟩ : Codec).prepareOwn (.binary ⟨.text s, ct⟩) q w.version).setValueType vp)).erase "VALUE")
      hdata' rfl hta
    refine ⟨q', fun types => ?_⟩
    rw [readText_binary, show (⟨n, .binary ta, pref⟩ : Codec).dataType (.binary ⟨.text s, ct⟩) w.version =
      some .text from rfl, h types, hvalue, contentTypeIn_binary w _ q vp fun _ => rfl]
    rfl
  | data d =>
    cases h40 : w.version == .v40
    · -- before 4.0 the bytes are written in base64, announced by `ENCODING`
      have hv : w.version ≠ .v40 := by simpa using h40
      have hdata : startsWithNoCase (trim (unescape (Encoding.encodeBase64 d))) "data:" = false := by
        rw [unescape_encodeBase64, trim_encodeBase64]
        exact startsWithNoCase_encodeBase64 d
      have hdecode : Encoding.decodeBase64 (String.ofList
          ((trim (unescape (Encoding.encodeBase64 d))).toList.filter (!isBlank ·))) = .ok d := by
        rw [unescape_encodeBase64, trim_encodeBase64,
          List.filter_eq_self.mpr fun c hc => by simp [(Encoding.safeChar_of_mem_encodeBase64 hc).not_blank],
          String.ofList_toList, Encoding.decodeBase64_encodeBase64]
      -- the data type is the version's default: none in 2.1, `binary` in 3.0
      have hdt : (⟨n, .binary ta, pref⟩ : Codec).dataType (.binary ⟨.data d, ct⟩) w.version =
          (⟨n, .binary ta, pref⟩ : Codec).defaultDataType w.version := rfl
      have hurl : ((⟨n, .binary ta, pref⟩ : Codec).defaultDataType w.version == some .uri ||
          (⟨n, .binary ta, pref⟩ : Codec).defaultDataType w.version == some .url ||
          (⟨n, .binary ta, pref⟩ : Codec).defaultDataType w.version == some .contentId) = false := by
        revert hv
        cases w.version <;> intro hv <;> first | rfl | exact absurd rfl hv
      have htext : ((⟨n, .binary ta, pref⟩ : Codec).defaultDataType w.version == some .text && ta) = false := by
        cases w.version <;> rfl
      have he : Text.lower (if w.version = .v21 then "BASE64" else "b") = "b" ∨
          Text.lower (if w.version = .v21 then "BASE64" else "b") = "base64" := by
        split
        · exact .inr (by decide)
        · exact .inl (by decide)
      refine ⟨Encoding.encodeBase64 d, ?_,
        unbroken_of_not_blank fun c hc => (Encoding.safeChar_of_mem_encodeBase64 hc).not_blank, fun q => ?_⟩
      · simp only [writeText, h40, Bool.false_eq_true, if_false]
        rfl
      have henc : ((w.paramsReadBack (((⟨n, .binary ta, pref⟩ : Codec).prepareOwn (.binary ⟨.data d, ct⟩) q
          w.version).setValueType vp)).erase "VALUE").getAll "ENCODING" =
          [if w.version = .v21 then "BASE64" else "b"] := by
        rw [getAll_paramsReadBack w _ (by decide) (by decide), getAll_setValueType_ne _ _ (by decide),
          getAll_prepareOwn_encoding, if_pos ⟨hv, rfl⟩, List.map_singleton, paramValueReadBack_encoding]
      obtain ⟨q', h⟩ := run'_readBinary_base64 w.version _ hdata hurl htext henc he hdecode
      refine ⟨q', fun types => ?_⟩
      rw [readText_binary, hdt, h types, contentTypeIn_binary w _ q vp fun h => absurd h hv]
      simp only [Writer.binaryBack, h40, Bool.false_eq_true, if_false]
    · -- in 4.0 they are written as a data URI
      have hv : w.version = .v40 := by simpa using h40
      obtain ⟨hu, hm⟩ := hsrc hv
      have hslash : '\\' ∉ (Binary.dataUriType ⟨.data d, ct⟩).toList := fun h => (hm _ h).1 rfl
      have hvalue : trim (unescape (DataUri.text ⟨some (Binary.dataUriType ⟨.data d, ct⟩), d⟩)) =
          DataUri.text ⟨some (Binary.dataUriType ⟨.data d, ct⟩), d⟩ := by
        rw [unescape_dataUri d hslash, trim_dataUri]
      have hparse := DataUri.parse_text d (Binary.dataUriType_ne_empty _) fun c hc => ⟨(hm c hc).2.1, (hm c hc).2.2⟩
      have hdata := startsWithNoCase_dataUri (Binary.dataUriType ⟨.data d, ct⟩) d
      rw [← hvalue] at hdata hparse
      refine ⟨DataUri.text ⟨some (Binary.dataUriType ⟨.data d, ct⟩), d⟩, ?_, unbroken_dataUri d hu, fun q => ?_⟩
      · simp only [writeText, h40, if_true]
        cases ct <;> rfl
      obtain ⟨q', h⟩ := run'_readBinary_dataUri w.version
        ((w.paramsReadBack (((⟨n, .binary ta, pref⟩ : Codec).prepareOwn (.binary ⟨.data d, ct⟩) q
          w.version).setValueType vp)).erase "VALUE") ta
        ((⟨n, .binary ta, pref⟩ : Codec).dataType (.binary ⟨.data d, ct⟩) w.version) hdata hparse
      refine ⟨q', fun types => ?_⟩
      rw [readText_binary, h types]
      simp only [Writer.binaryBack, h40, if_true]
      rfl

theorem name_of_mem_valueParameter {d : DataType}
    (h : d ∈ (⟨n, .binary ta, pref⟩ : Codec).valueParameter (.binary b) w.version) : d.name ≠ "" := by
  obtain ⟨source, ct⟩ := b
  cases hv : w.version <;> cases source <;>
    simp [hv, valueParameter, dataType, defaultDataType, uriType, Binary.url?, Binary.text?] at h <;>
    subst h <;> decide

end Prepared

/-- Binary content is no address, so it has no label line. -/
theorem labelOf_binary {p : Property} {b : Binary} (h : p.value = .binary b) : labelOf p = none := by
  unfold labelOf
  split
  · rfl
  · rw [h]

/-- A small JPEG photo given inline. -/
def smallPhoto : Property := Property.make "PHOTO" (.binary ⟨.data [1, 2, 3], some "image/jpeg"⟩)

-- 4.0 writes inline data as a data URI, earlier versions as base64 announced by `ENCODING`
example : ({ version := .v40 } : Writer).propertyLine? { properties := [smallPhoto] } (some 0) smallPhoto =
    some "PHOTO:data:image/jpeg;base64,AQID" := by
  decide +kernel

end Vcf

end VCard
