import VCard.Proofs.Vcf.RoundTrip
import VCard.Proofs.Vcf.Quiet
/-! A property written alone on a card, read back.

A property whose value its codec writes as text on one line comes back as the
value the same codec reads from that text, at the data type the reader finds:
the one the writer announced in `VALUE`, or else the version's default
(`readProperty_announced`). An announced type comes back as itself when it is
one of the known ones (`typeReadBack_known`); an extension type comes back as
the extension of its name as the reader decodes it.

`readProperty_line` follows one property through its line: the line holds no
line break, and reading it adds to the card the value the codec reads, without
a warning. `single_round_trip` puts this together for a card of one property
written with the default settings: when the property's line unfolds whole, the
text written reads back, without a warning, as one card of the writer's version
holding that value alone. -/
namespace VCard

namespace Params

theorem getAll_setValueType_ne (p : Params) (dt : Option DataType) {m : String} (h : key m ≠ "VALUE") :
    (p.setValueType dt).getAll m = p.getAll m := by
  have hk : key m ≠ key "VALUE" := h
  cases dt with
  | none => exact getAll_erase_ne p hk
  | some d =>
    simp only [setValueType, set, replace, Option.map_some]
    rw [getAll_put_other _ _ _ _ (Ne.symm hk)]
    exact getAll_erase_ne p hk

theorem getAll_setValueType_self (p : Params) (dt : Option DataType) :
    (p.setValueType dt).getAll "VALUE" = (dt.map (·.name)).toList :=
  getAll_set_self p _ _

/-- Announcing a data type keeps parameters portable when the type has a name. -/
theorem Portable.setValueType {p : Params} (hp : p.Portable) {dt : Option DataType}
    (hdt : ∀ d ∈ dt, d.name ≠ "") : (p.setValueType dt).Portable := by
  refine Portable.of_entries fun e he => ?_
  rcases mem_set he with h | ⟨x, hx, rfl⟩
  · exact hp.entry h
  · simp only [Option.mem_def, Option.map_eq_some_iff] at hx
    obtain ⟨d, hd, rfl⟩ := hx
    rw [show key "VALUE" = "VALUE" by decide]
    exact portableEntry_name (by decide) (by decide) (hdt d hd) (by decide)

end Params

namespace Vcf

open ContentLine Text Codec

/-! ### The announced data type -/

namespace Writer

/-- The data type a reader with the writer's caret setting takes a written
`VALUE` for. -/
def typeReadBack (w : Writer) (dt : DataType) : DataType := DataType.ofName (w.paramValueReadBack dt.name)

/-- A known data type is announced and read back as itself. -/
theorem typeReadBack_known (w : Writer) {dt : DataType} (h : dt.isExtension = false) : w.typeReadBack dt = dt := by
  cases dt <;> simp only [DataType.isExtension, Bool.true_eq_false] at h <;>
    unfold typeReadBack paramValueReadBack <;> split <;> decide

theorem paramValueReadBack_ne_empty (w : Writer) {s : String} (h : s ≠ "") : w.paramValueReadBack s ≠ "" := by
  unfold paramValueReadBack
  split
  · exact fun h' => h (lineFeeds_eq_empty.mp h')
  · have hne := sanitizeChars_ne_nil (String.toList_eq_nil_iff.not.mpr h)
    simpa [sanitize] using hne

end Writer

/-- **A value written with its data type announced is read at that type.** The
reader finds the parameters as written, decoded, and reads the value at the
announced type as it decodes it, or at the version's default when none was
announced. When the codec reads a value without a warning, so does the whole
reading of the line, and the property joins the frame. -/
theorem readProperty_announced (index : CodecIndex) (settings : Settings) (embedded : EmbeddedReader)
    (frame : Frame) (w : Writer) (hcaret : settings.caretEncoding = w.settings.caretEncoding)
    (hv : frame.card.version = w.version) (group : Option String) (name t : String) {P : Params}
    {dt : Option DataType} (hP : (P.setValueType dt).Portable)
    (hE : ∀ e ∈ P.getAll "ENCODING", Text.lower (w.paramValueReadBack e) ≠ "quoted-printable")
    {x : Value} {q : Params}
    (hread : ∀ types, ∃ types', ((index.codecFor name).readText t
        ((dt.map w.typeReadBack).orElse fun _ => (index.codecFor name).defaultDataType w.version)).run' w.version
        ((w.paramsReadBack (P.setValueType dt)).erase "VALUE") types = ⟨.value x, q, types', []⟩) (n : Nat) :
    Quietly (readProperty index settings embedded frame
        ⟨group, name, (w.writtenParams (P.setValueType dt)).map WrittenParam.read, t⟩ n)
      (frame.takeProperty (Property.make name x q group)) := by
  have hparams : ∀ types, parameters settings types ((w.writtenParams (P.setValueType dt)).map WrittenParam.read)
      w.version = w.paramsReadBack (P.setValueType dt) := fun types => w.parameters_writtenParams types hcaret hP
  have hQ : ∀ m, Params.key m = m → (w.paramsReadBack (P.setValueType dt)).getAll m =
      ((P.setValueType dt).getAll m).map w.paramValueReadBack :=
    fun m hm => Params.getAll_regroup _ _ hm
  -- the line is not quoted-printable, and its `VALUE` is the announced type's name
  have hE' : ((w.paramsReadBack (P.setValueType dt)).get? "ENCODING").any
      (Text.lower · == "quoted-printable") = false := by
    rw [Params.get?_eq_head?_getAll, hQ _ (by decide), Params.getAll_setValueType_ne _ _ (by decide)]
    cases h : P.getAll "ENCODING" with
    | nil => rfl
    | cons e es => simpa using hE e (by simp [h])
  have hV' : (w.paramsReadBack (P.setValueType dt)).get? "VALUE" = dt.map fun d => w.paramValueReadBack d.name := by
    rw [Params.get?_eq_head?_getAll, hQ _ (by decide), Params.getAll_setValueType_self]
    cases dt <;> rfl
  obtain ⟨f, hf⟩ : ∃ f : DataType.Registry → DataType.Registry, ∀ types,
      ((index.codecFor name).readText t
        ((dt.map w.typeReadBack).orElse fun _ => (index.codecFor name).defaultDataType w.version)).run' w.version
        ((w.paramsReadBack (P.setValueType dt)).erase "VALUE") types = ⟨.value x, q, f types, []⟩ :=
    ⟨fun types => (hread types).choose, fun types => (hread types).choose_spec⟩
  intro s
  rcases dt with _ | d
  on_goal 1 =>
    simp only [Option.map_none] at hf
    simp only [readProperty, hv, hparams, hE', hV', Bool.false_eq_true, if_false, pure_bind, Option.map_none, hf]
  on_goal 2 =>
    have hmem : ("VALUE", d.name) ∈ (P.setValueType (some d)).entries := by
      simp only [Params.setValueType, Params.set, Params.replace, Params.put, Option.map_some]
      exact List.mem_append_right _ (List.mem_singleton.mpr (by rw [show Params.key "VALUE" = "VALUE" by decide]))
    have hname : d.name ≠ "" := hP.values _ hmem
    have hne : (w.paramValueReadBack d.name).isEmpty = false := by
      simpa using w.paramValueReadBack_ne_empty hname
    simp only [Option.map_some, Option.orElse_eq_or, Option.some_or, Writer.typeReadBack] at hf
    simp only [readProperty, hv, hparams, hE', hV', Option.map_some, hne, Bool.false_eq_true, if_false, pure_bind,
      DataType.Registry.get, Option.orElse_eq_or, Option.some_or, hf]
  -- what the property read adds to the frame, whether a type was announced or not
  all_goals
    unfold Frame.takeProperty
    split
    · simp only [Property.make, hv]
      split <;> exact ⟨_, rfl⟩
    · simp only [Property.make]
      exact ⟨_, rfl⟩

/-! ### One property on its line -/

/-- A line that reading takes quietly, as one content line, from one frame to
another, whatever its number. -/
def QuietStep (index : CodecIndex) (settings : Settings) (embedded : EmbeddedReader) (line : String)
    (frame frame' : Frame) : Prop :=
  ∃ parsed, parse line = some parsed ∧ Text.upper parsed.name ∉ ["BEGIN", "END", "VERSION"] ∧
    ∀ n, Quietly (readProperty index settings embedded frame parsed n) frame'

theorem QuietStep.lineStep {index : CodecIndex} {settings : Settings} {embedded : EmbeddedReader} {line : String}
    {frame frame' : Frame} (h : QuietStep index settings embedded line frame frame') :
    LineStep index settings embedded line frame frame' := by
  obtain ⟨parsed, hparse, hkey, hread⟩ := h
  exact ⟨parsed, hparse, hkey, fun n => (hread n).returns⟩

/-- **A property written on one line is read back as its codec reads the
written text.** The codec writes the value as text without line breaks, with the
parameters prepared for the version and the data type announced when it is not
the default; reading the line adds to the card, without a warning, the value the
codec reads from that text at the type it finds. -/
theorem readProperty_line (w : Writer) (settings : Settings)
    (hcaret : settings.caretEncoding = w.settings.caretEncoding) (card : Card) (self : Option Nat)
    {prop : Property} {codec : Codec} {P : Params} {vp : Option DataType} {t : String} {x : Value} {q : Params}
    (hcodec : w.index.codecForProperty prop = codec) (hcodec' : w.index.codecFor prop.name = codec)
    (hprep : codec.prepareParams prop self w.version (some card) = P)
    (hvp : codec.valueParameter prop.value w.version = vp)
    (hwrite : (codec.writeText prop.value w.version).run'.1 = .ok (.written t)) (hunbroken : Unbroken t.toList)
    (hgroup : ∀ g ∈ prop.group, IsName g) (hname : IsName prop.name)
    (hkey : Text.upper prop.name ∉ ["BEGIN", "END", "VERSION"]) (hP : (P.setValueType vp).Portable)
    (hE : ∀ e ∈ P.getAll "ENCODING", Text.lower (w.paramValueReadBack e) ≠ "quoted-printable")
    (hread : ∀ types, ∃ types', (codec.readText t
        ((vp.map w.typeReadBack).orElse fun _ => codec.defaultDataType w.version)).run' w.version
        ((w.paramsReadBack (P.setValueType vp)).erase "VALUE") types = ⟨.value x, q, types', []⟩)
    (hx : ∀ l, x ≠ .label l) :
    ∃ line, w.propertyLine? card self prop = some line ∧ Unbroken line.toList ∧
      ∀ frame, frame.card.version = w.version → ∀ embedded, QuietStep w.index settings embedded line frame
        { frame with card := frame.card.add (Property.make prop.name x q prop.group) } := by
  have hline : w.propertyLine? card self prop = some (w.contentLine prop.group prop.name (P.setValueType vp) t) := by
    unfold Writer.propertyLine?
    simp only [hcodec, hwrite, not_quotedPrintable_of_unbroken hunbroken, Bool.false_eq_true, if_false, hprep,
      hvp]
  refine ⟨_, hline, w.unbroken_contentLine hgroup hname hP hunbroken, fun frame hv embedded =>
    ⟨_, w.parse_contentLine_written t hgroup hname hP, hkey, fun n => ?_⟩⟩
  have h := readProperty_announced w.index settings embedded frame w hcaret hv prop.group prop.name t hP hE
    (hcodec' ▸ hread) n
  -- a value that is no label joins the card
  have htake : frame.takeProperty (Property.make prop.name x q prop.group) =
      { frame with card := frame.card.add (Property.make prop.name x q prop.group) } := by
    unfold Frame.takeProperty
    split
    · next l hl => exact absurd hl (hx l)
    · rfl
  rwa [htake] at h

/-! ### A card of one property -/

/-- The folded lines of a card of one property are read as four logical lines:
`BEGIN:VCARD`, the version, the property's line and `END:VCARD`. -/
theorem logicalLines_singleCard (V : Version) {line : String} (hfold : unfoldsWhole 75 line = true)
    (hu : Unbroken line.toList) :
    ∃ lb lv lp le, logicalLines (String.ofList ((cardLines V [line]).flatMap fun l => (foldLine 75 l).toList)) =
      [lb, lv, lp, le] ∧ lb.text = "BEGIN:VCARD" ∧ lv.text = "VERSION:" ++ V.text ∧ lp.text = line ∧
      le.text = "END:VCARD" := by
  have hmem : ∀ l ∈ cardLines V [line], l = "BEGIN:VCARD" ∨ l = "VERSION:" ++ V.text ∨ l = line ∨ l = "END:VCARD" := by
    simp only [cardLines, List.cons_append, List.nil_append, List.mem_cons, List.not_mem_nil, or_false]
    exact fun l hl => hl
  have hlog := logicalLines_foldLines 75 (cardLines V [line])
    (fun l hl => by
      rcases hmem l hl with rfl | rfl | rfl | rfl
      exacts [by decide, by cases V <;> decide, hfold, by decide])
    (fun l hl => by
      rcases hmem l hl with rfl | rfl | rfl | rfl
      exacts [unbroken_of_all (by decide), by cases V <;> exact unbroken_of_all (by decide), hu,
        unbroken_of_all (by decide)])
  simp only [cardLines, List.cons_append, List.nil_append] at hlog
  obtain ⟨lb, r1, hls, hb, h1⟩ := List.map_eq_cons_iff.mp hlog
  obtain ⟨lv, r2, rfl, hv, h2⟩ := List.map_eq_cons_iff.mp h1
  obtain ⟨lp, r3, rfl, hp, h3⟩ := List.map_eq_cons_iff.mp h2
  obtain ⟨le, rfl, he⟩ := List.map_eq_singleton_iff.mp h3
  exact ⟨lb, lv, lp, le, hls, hb, hv, hp, he⟩

/-- **A card of one property is read back as one card of the writer's version
holding the property read back, with no warning.** The property is written on a
line that unfolds whole, and no label line follows it; reading that line takes
the empty card of the version to the card holding `q`. -/
theorem single_round_trip (V : Version) (p : Property) {line : String} {q : Property}
    (hlabel : labelOf p = none)
    (hline : ({ version := V } : Writer).propertyLine? { properties := [p] } (some 0) p = some line)
    (hfold : unfoldsWhole 75 line = true) (hu : Unbroken line.toList)
    (hstep : ∀ embedded, QuietStep defaultIndex {} embedded line { card := { version := V }, depth := 0 }
      { card := ({ version := V } : Card).add q, depth := 0 }) :
    ∃ text ws, write { version := V } [{ properties := [p] }] = .ok (text, ws) ∧
      Quietly (read defaultIndex {} text) [{ version := V, properties := [q] }] := by
  obtain ⟨ws, hws⟩ := write_singleProperty V p hline fun _ l hl => by
    rw [hlabel] at hl
    cases hl
  have hnil : labelLines V p = [] := by simp [labelLines, hlabel]
  rw [hnil] at hws
  refine ⟨_, ws, hws, ?_⟩
  obtain ⟨lb, lv, lp, le, hls, hb, hv, hp, he⟩ := logicalLines_singleCard V hfold hu
  obtain ⟨parsed, hparse, hkey, hread⟩ := hstep (readEmbedded defaultIndex {}
    ((String.ofList ((cardLines V [line]).flatMap fun l => (foldLine 75 l).toList)).length + 1))
  exact read_single_quiet defaultIndex {} hls hb hv he (hp ▸ hparse) hkey (hread _) rfl

end Vcf

end VCard
