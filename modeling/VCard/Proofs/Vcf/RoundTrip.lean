import VCard.Proofs.Vcf.Write
import VCard.Proofs.ContentLine.Unfold
import VCard.Proofs.Vcf.Embedded
/-! A structured value written and read back.

`structured_value_round_trip` follows one property of a structured shape
(address, name, organisation, categories, nickname, gender, client PID map)
through the whole library: written alone on a card in any version with the
default settings, and the text read back with the default settings, it gives
one card of that version and one property, whose value is the one
`Shape.readBack` gives: each component or list item as written, an empty item
gone, line ends as line feeds, a gender's sex in capitals. In 4.0 the address
keeps its label, which travels as a `LABEL` parameter; before 4.0 the label is
a line of its own, which the reader attaches at the end of the card, so only
the value without its label is compared (`Value.dropLabel`).

The theorem needs what the writer cannot promise on its own. The group and
every parameter name must be names and no parameter value empty
(`Params.Portable`), as for any content line. A 4.0 label must not be empty:
`LABEL=` reads back as no label. A 2.1 label must hold no line break, or it is
written quoted-printable. And each line, folded at 75 characters, must unfold
as one logical line (`unfoldsWhole`): a folded piece of blanks only ends the
line, and a line so far ending in `=` and mentioning `quoted-printable` takes
the next physical line into it. `quotedPrintable_address_unreadable` is an
address that breaks the last rule: its card cannot be read back at all.

The proof goes line by line. Reading the property's line adds the value read
back to the card (`readProperty_structured`); reading the label line before 4.0
sets the label aside (`readProperty_labelLine`); the writer writes the card's lines
folded one after the other (`write_singleProperty`), and these read back as the
card (`read_foldedLines`, `read_singleProperty`); attaching labels at the end
changes values only in their labels (`assignLabels_dropLabel`).

A raw value is written as it is, so one holding a line feed breaks its line:
the text of `brokenRawCard` reads back as a card that lost what follows the
line feed (`rawLineFeed_loses_properties`), and is not what reading and writing
it again gives (`rawLineFeed_rewrite_differs`). The same card written into an
`AGENT` in 3.0 loses the same properties, with no warning
(`embeddedRawLineFeed_loses_properties`). -/
namespace VCard

/-- A value with an address's label taken off. -/
def Value.dropLabel : Value → Value
  | .address a => .address { a with label := none }
  | x => x

/-- The label of an address. -/
def Value.addressLabel : Value → Option String
  | .address a => a.label
  | _ => none

namespace Vcf

open ContentLine Text Codec

/-! ### Values read back -/

theorem dropLabel_readBack {s : Shape} {x : Value} (hx : Codec.Structured s x) (label : Option String) :
    (s.readBack label x).dropLabel = (s.readBack none x).dropLabel := by
  cases hx <;> rfl

theorem addressLabel_readBack_address {s : Shape} {a : Address} (hx : Codec.Structured s (.address a))
    (label : Option String) : (s.readBack label (.address a)).addressLabel = label := by
  rw [hx.shape_of_address rfl]
  rfl

theorem addressLabel_readBack_of_ne {s : Shape} {x : Value} (hx : Codec.Structured s x)
    (hne : ∀ a, x ≠ .address a) (label : Option String) : (s.readBack label x).addressLabel = none := by
  cases hx with
  | address a => exact absurd rfl (hne a)
  | _ => rfl

/-! ### Labels attached at the end of a card -/

theorem dropLabel_withLabel (p : Property) (t : String) : (withLabel p t).value.dropLabel = p.value.dropLabel := by
  unfold withLabel
  split <;> simp_all [Value.dropLabel]

theorem map_modify_of_comp {α β : Type} {l : List α} {i : Nat} {f : α → α} {g : α → β} (h : ∀ x, g (f x) = g x) :
    (l.modify i f).map g = l.map g := by
  apply List.ext_getElem?
  intro j
  simp only [List.getElem?_map, List.getElem?_modify]
  cases l[j]? with
  | none => rfl
  | some x =>
    simp only [Option.map_some]
    split <;> simp [h]

/-- Attaching labels leaves the version of a card as it is. -/
theorem assignLabels_version (c : Card) (ls : List (Property × Nat)) : (assignLabels c ls).version = c.version := by
  induction ls generalizing c with
  | nil => rfl
  | cons l rest ih =>
    simp only [assignLabels]
    split <;> rw [ih]

/-- Attaching labels changes the values of a card only in their labels. -/
theorem assignLabels_dropLabel (c : Card) (ls : List (Property × Nat)) :
    (assignLabels c ls).properties.map (·.value.dropLabel) = c.properties.map (·.value.dropLabel) := by
  induction ls generalizing c with
  | nil => rfl
  | cons l rest ih =>
    simp only [assignLabels]
    split
    · rw [ih]
      exact map_modify_of_comp fun p => dropLabel_withLabel p _
    · rw [ih]

/-! ### Reading a written property -/

/-- The parameters a reader with the writer's caret setting gets back from a
written line: each value of `P` under its name, read back. -/
def Writer.paramsReadBack (w : Writer) (P : Params) : Params :=
  ⟨P.multimap.flatMap fun nv => nv.2.map fun v => (nv.1, w.paramValueReadBack v)⟩

/-- What reading a property does to the card being read: before 4.0 a label is
set aside until the card ends, anything else joins the card. -/
def Frame.takeProperty (frame : Frame) (p : Property) : Frame :=
  match p.value with
  | .label _ =>
    if frame.card.version != .v40 then
      { frame with labels := frame.labels ++ [(p, (positionsNamed frame.card "ADR").length)] }
    else { frame with card := frame.card.add p }
  | _ => { frame with card := frame.card.add p }

theorem readProperty_written (index : CodecIndex) (settings : Settings) (embedded : EmbeddedReader) (frame : Frame)
    (w : Writer) (hcaret : settings.caretEncoding = w.settings.caretEncoding) (hv : frame.card.version = w.version)
    (group : Option String) {name : String} {t : String} {P : Params} (f : Params → Value) (g : Params → Params)
    (hread : ∀ dt p types, ((index.codecFor name).readText t dt).run' w.version p types =
        ⟨.value (f p), g p, types, []⟩)
    (hP : P.Portable) (hE : P.getAll "ENCODING" = []) (hV : P.getAll "VALUE" = []) (n : Nat) :
    Returns (readProperty index settings embedded frame ⟨group, name, (w.writtenParams P).map WrittenParam.read, t⟩ n)
      (frame.takeProperty (Property.make name (f ((w.paramsReadBack P).erase "VALUE"))
        (g ((w.paramsReadBack P).erase "VALUE")) group)) := by
  have hparams : ∀ types, parameters settings types ((w.writtenParams P).map WrittenParam.read) w.version =
      w.paramsReadBack P := fun types => w.parameters_writtenParams types hcaret hP
  have hQ : ∀ m, Params.key m = m → (w.paramsReadBack P).getAll m = (P.getAll m).map w.paramValueReadBack :=
    fun m hm => Params.getAll_regroup P _ hm
  have hE' : (w.paramsReadBack P).get? "ENCODING" = none := by
    rw [Params.get?_eq_head?_getAll, hQ _ (by decide), hE]
    rfl
  have hV' : (w.paramsReadBack P).get? "VALUE" = none := by
    rw [Params.get?_eq_head?_getAll, hQ _ (by decide), hV]
    rfl
  intro s
  refine ⟨s, ?_⟩
  unfold Frame.takeProperty
  simp only [readProperty, hv, hparams, hE', hV', Option.any_none, Bool.false_eq_true, if_false, pure_bind, hread]
  split
  · next y hy =>
    simp only [hy, Property.make]
    by_cases h40 : w.version = .v40
    · simp only [h40, bne_self_eq_false, Bool.false_eq_true, if_false]
      rfl
    · simp only [h40, bne_iff_ne, ne_eq, not_false_eq_true, if_true]
      rfl
  · next hy =>
    split
    · next y hy' => exact absurd hy' (hy y)
    · rfl

theorem codecForProperty_of_structured (ix : CodecIndex) {p : Property} {s : Shape} (hx : Structured s p.value) :
    ix.codecForProperty p = ix.codecFor p.name := by
  unfold CodecIndex.codecForProperty
  generalize p.value = x at hx ⊢
  cases hx <;> rfl

/-- A structured value read back joins the card. -/
theorem takeProperty_of_structured (frame : Frame) {s : Shape} {x : Value} (hx : Structured s x) (label : Option String)
    (name : String) (P : Params) (group : Option String) :
    frame.takeProperty (Property.make name (s.readBack label x) P group) =
      { frame with card := frame.card.add (Property.make name (s.readBack label x) P group) } := by
  cases hx <;> rfl

/-- A line that reading takes, as one content line, from one frame to another,
whatever its number. -/
def LineStep (index : CodecIndex) (settings : Settings) (embedded : EmbeddedReader) (line : String)
    (frame frame' : Frame) : Prop :=
  ∃ parsed, parse line = some parsed ∧ Text.upper parsed.name ∉ ["BEGIN", "END", "VERSION"] ∧
    ∀ n, Returns (readProperty index settings embedded frame parsed n) frame'

theorem LineStep.propertySteps {index : CodecIndex} {settings : Settings} {embedded : EmbeddedReader}
    {l : LogicalLine} {ls : List LogicalLine} {frame frame' frame'' : Frame}
    (h : LineStep index settings embedded l.text frame frame')
    (hs : PropertySteps index settings embedded frame' ls frame'') :
    PropertySteps index settings embedded frame (l :: ls) frame'' := by
  obtain ⟨parsed, hparse, hkey, hread⟩ := h
  exact .cons hparse hkey (hread _) hs

/-- **A structured value is written on one line, and read back.** The line holds
no line break and parses to the property's name; reading it adds to the card
the value read back, with the label the reader finds among the parameters the
value was written with. -/
theorem readProperty_structured (w : Writer) (settings : Settings)
    (hcaret : settings.caretEncoding = w.settings.caretEncoding) (card : Card) (self : Option Nat) {prop : Property}
    (hx : Structured (w.index.codecFor prop.name).shape prop.value)
    (hgroup : ∀ g ∈ prop.group, IsName g) (hname : IsName prop.name)
    (hkey : Text.upper prop.name ∉ ["BEGIN", "END", "VERSION"]) (hp : prop.params.Portable)
    (hE : prop.params.getAll "ENCODING" = [])
    (hl : w.version = .v40 → ∀ a, prop.value = .address a → ∀ l ∈ a.label, l ≠ "") :
    ∃ line, w.propertyLine? card self prop = some line ∧ Unbroken line.toList ∧
      ∃ q : Property, q.value = (w.index.codecFor prop.name).shape.readBack
          ((((w.index.codecFor prop.name).prepareParams prop self w.version (some card)).getAll "LABEL").head?.map
            w.paramValueReadBack) prop.value ∧
        ∀ frame, frame.card.version = w.version →
          ∀ embedded, LineStep w.index settings embedded line frame { frame with card := frame.card.add q } := by
  set codec := w.index.codecFor prop.name with hcodec
  set prepared := codec.prepareParams prop self w.version (some card) with hprepared
  obtain ⟨t, hwrite, hunbroken, hread⟩ := readText_writeText hx w.version
  have hP : prepared.setValueType (codec.valueParameter prop.value w.version) = prepared.erase "VALUE" := by
    rw [valueParameter_structured hx]
    rfl
  have hport : (prepared.erase "VALUE").Portable := (portable_prepareParams hx hp hl self (some card)).erase _
  have hline : w.propertyLine? card self prop = some (w.contentLine prop.group prop.name (prepared.erase "VALUE") t) := by
    unfold Writer.propertyLine?
    simp only [codecForProperty_of_structured w.index hx, ← hcodec, hwrite,
      not_quotedPrintable_of_unbroken hunbroken, Bool.false_eq_true, if_false, ← hprepared, hP]
  have hE' : (prepared.erase "VALUE").getAll "ENCODING" = [] := by
    rw [Params.getAll_erase_ne _ (by decide)]
    exact getAll_prepareParams_eq_nil hx hE (by decide) (by decide) (by decide)
  have hV' : (prepared.erase "VALUE").getAll "VALUE" = [] := Params.getAll_erase_self _ _
  have hL : ((w.paramsReadBack (prepared.erase "VALUE")).erase "VALUE").getAll "LABEL" =
      (prepared.getAll "LABEL").map w.paramValueReadBack := by
    rw [Params.getAll_erase_ne _ (by decide), Writer.paramsReadBack, Params.getAll_regroup _ _ (by decide),
      Params.getAll_erase_ne _ (by decide)]
  set back := (w.paramsReadBack (prepared.erase "VALUE")).erase "VALUE"
  refine ⟨_, hline, w.unbroken_contentLine hgroup hname hport hunbroken,
    Property.make prop.name (codec.shape.readBack (back.getAll "LABEL").head? prop.value) (codec.shape.readParams back)
      prop.group, ?_, fun frame hv embedded => ⟨_, w.parse_contentLine_written t hgroup hname hport, hkey, fun n => ?_⟩⟩
  · simp only [Property.make, hL, List.head?_map]
  · have h := readProperty_written w.index settings embedded frame w hcaret hv prop.group
      (fun p => codec.shape.readBack (p.getAll "LABEL").head? prop.value) codec.shape.readParams
      (fun dt p types => hread dt p types) hport hE' hV' n
    rw [takeProperty_of_structured frame hx] at h
    exact h

/-! ### The label line -/

/-- The codec of labels. -/
def labelCodec : Codec := ⟨"LABEL", .label, false⟩

theorem run'_writeText_label (x : String) (v : Version) :
    (labelCodec.writeText (.label (some x)) v).run' = (.ok (.written (escapeFor v x)), []) := rfl

theorem run'_readText_label (t : String) (dt : Option DataType) (v : Version) (p : Params)
    (types : DataType.Registry) :
    (labelCodec.readText t dt).run' v p types = ⟨.value (.label (some (Text.unescape t))), p, types, []⟩ := rfl

theorem labelCodec_valueParameter (x : Option String) (v : Version) :
    labelCodec.valueParameter (.label x) v = none := by
  cases v <;> rfl

/-- An address's label written as text: escaped, with its line breaks escaped
after 2.1. -/
theorem unbroken_escapeFor {v : Version} {x : String} (h : v = .v21 → Unbroken x.toList) :
    Unbroken (escapeFor v x).toList := by
  unfold escapeFor Text.escape
  rw [String.toList_ofList]
  by_cases h21 : v = .v21
  · exact unbroken_escapeChars_of _ (h h21)
  · rw [show (v != .v21) = true from bne_iff_ne.mpr h21]
    exact unbroken_escapeChars x.toList

/-- Text escaped for a version unescapes to itself with LF line ends; in 2.1,
which writes line breaks as they are, when it has none. -/
theorem unescape_escapeFor {v : Version} {s : String} (h : v = .v21 → Unbroken s.toList) :
    unescape (escapeFor v s) = lineFeeds s := by
  unfold escapeFor escape unescape lineFeeds
  have hchars : escapeChars (v != .v21) s.toList = escapeChars true s.toList := by
    by_cases h21 : v = .v21
    · exact escapeChars_of_unbroken _ (h h21)
    · rw [show (v != .v21) = true from bne_iff_ne.mpr h21]
  rw [String.toList_ofList, hchars, unescapeChars_escapeChars]

theorem unescape_of_forall {s : String} (h : '\\' ∉ s.toList) : unescape s = s := by
  rw [unescape, unescapeChars_of_forall h, String.ofList_toList]

/-- The types an address's label line carries: the address's, but `pref`. -/
def labelTypes (p : Params) : Params :=
  Params.ofList ((p.types.filter (Text.lower · != "pref")).map ("TYPE", ·))

/-- The label the reader sets aside for a label line written for `prop`. -/
def Writer.labelRead (w : Writer) (prop : Property) (x : String) : Property :=
  Property.make "LABEL" (.label (some (Text.unescape (escapeFor w.version x))))
    ((w.paramsReadBack ((labelTypes prop.params).erase "VALUE")).erase "VALUE") prop.group

theorem labelOf_eq_some {prop l : Property} (hlabel : labelOf prop = some l) :
    ∃ a x, prop.value = .address a ∧ a.label = some x ∧
      l = Property.make "LABEL" (.label (some x)) (labelTypes prop.params) prop.group := by
  unfold labelOf at hlabel
  split at hlabel
  · simp at hlabel
  · split at hlabel
    · next a ha =>
      obtain ⟨x, hx, rfl⟩ := Option.map_eq_some_iff.mp hlabel
      exact ⟨a, x, ha, hx, rfl⟩
    · simp at hlabel

/-- **Before 4.0 an address's label is written on a `LABEL` line of its own**,
without line breaks when it has none in 2.1; reading that line sets the label
aside, with the address's types but `pref`, to be attached when the card ends. -/
theorem readProperty_labelLine (w : Writer) (settings : Settings)
    (hcaret : settings.caretEncoding = w.settings.caretEncoding) (hcodec : w.index.codecFor "LABEL" = labelCodec)
    (h40 : w.version ≠ .v40) (card : Card) {prop : Property} (x : String)
    (hgroup : ∀ g ∈ prop.group, IsName g) (hp : prop.params.Portable) (h21 : w.version = .v21 → Unbroken x.toList) :
    ∃ line, w.propertyLine? card none (Property.make "LABEL" (.label (some x)) (labelTypes prop.params) prop.group) =
        some line ∧ Unbroken line.toList ∧
      ∀ frame, frame.card.version = w.version → ∀ embedded, LineStep w.index settings embedded line frame
        { frame with labels := frame.labels ++ [(w.labelRead prop x, (positionsNamed frame.card "ADR").length)] } := by
  set P := labelTypes prop.params
  have hP : (P.erase "VALUE").Portable := by
    refine (Params.portable_ofList _ fun q hq => ?_).erase _
    obtain ⟨y, hy, rfl⟩ := List.mem_map.mp hq
    obtain ⟨e, he, hkey, rfl⟩ : ∃ e ∈ prop.params.entries, e.1 = "TYPE" ∧ e.2 = y := by
      have hy' := (List.mem_filter.mp hy).1
      simp only [Params.types, Params.getAll, List.mem_map, List.mem_filter, beq_iff_eq] at hy'
      obtain ⟨e, ⟨he, hk⟩, rfl⟩ := hy'
      exact ⟨e, he, hk, rfl⟩
    exact ⟨(isNameChars_iff "TYPE").mp (by decide), hp.values e he, fun _ => hp.types e he hkey⟩
  have ht : Unbroken (escapeFor w.version x).toList := unbroken_escapeFor h21
  have hupper : Text.upper "LABEL" = "LABEL" := by decide
  have hcfp : w.index.codecForProperty (Property.make "LABEL" (.label (some x)) P prop.group) = labelCodec := by
    simp only [CodecIndex.codecForProperty, Property.make, hupper, hcodec]
  have hline : w.propertyLine? card none (Property.make "LABEL" (.label (some x)) P prop.group) =
      some (w.contentLine prop.group "LABEL" (P.erase "VALUE") (escapeFor w.version x)) := by
    unfold Writer.propertyLine?
    rw [hcfp]
    dsimp only [Property.make]
    rw [hupper, run'_writeText_label, labelCodec_valueParameter]
    simp only [not_quotedPrintable_of_unbroken ht, Bool.false_eq_true, if_false]
    rfl
  have hname : IsName "LABEL" := (isNameChars_iff _).mp (by decide)
  -- the line carries only `TYPE` parameters
  have hE : (P.erase "VALUE").getAll "ENCODING" = [] := by
    rw [Params.getAll_erase_ne _ (by decide), Params.getAll_eq_nil_iff]
    intro e he
    obtain ⟨q, hq, rfl⟩ := List.mem_map.mp he
    obtain ⟨y, -, rfl⟩ := List.mem_map.mp hq
    show Params.key "TYPE" ≠ Params.key "ENCODING"
    decide
  have hkey : Text.upper "LABEL" ∉ ["BEGIN", "END", "VERSION"] := by decide
  refine ⟨_, hline, w.unbroken_contentLine hgroup hname hP ht, fun frame hv' embedded =>
    ⟨_, w.parse_contentLine_written _ hgroup hname hP, hkey, fun n => ?_⟩⟩
  have h := readProperty_written w.index settings embedded frame w hcaret hv' prop.group
    (fun _ => .label (some (Text.unescape (escapeFor w.version x)))) id
    (fun dt p types => by rw [hcodec]; exact run'_readText_label _ dt _ p types) hP hE (Params.getAll_erase_self _ _) n
  -- before 4.0 the label is set aside, not added to the card
  have h40' : (frame.card.version != .v40) = true := by rw [hv']; exact bne_iff_ne.mpr h40
  simp only [Frame.takeProperty, Property.make, h40', if_true] at h
  exact h

/-- Reading an address's label line before 4.0 leaves the card as it is. -/
theorem readProperty_label (w : Writer) (settings : Settings)
    (hcaret : settings.caretEncoding = w.settings.caretEncoding) (hcodec : w.index.codecFor "LABEL" = labelCodec)
    (h40 : w.version ≠ .v40) (card : Card) {prop l : Property} (hlabel : labelOf prop = some l)
    (hgroup : ∀ g ∈ prop.group, IsName g) (hp : prop.params.Portable)
    (h21 : w.version = .v21 → ∀ a, prop.value = .address a → ∀ x ∈ a.label, Unbroken x.toList) :
    ∃ line, w.propertyLine? card none l = some line ∧ Unbroken line.toList ∧
      ∀ frame, frame.card.version = w.version →
        ∃ frame', frame'.card = frame.card ∧ ∀ embedded, LineStep w.index settings embedded line frame frame' := by
  obtain ⟨a, x, hv, hx, rfl⟩ := labelOf_eq_some hlabel
  obtain ⟨line, hline, hu, hstep⟩ := readProperty_labelLine w settings hcaret hcodec h40 card x hgroup hp
    fun h => h21 h a hv x hx
  exact ⟨line, hline, hu, fun frame hv' =>
    ⟨{ frame with labels := frame.labels ++ [(w.labelRead _ x, (positionsNamed frame.card "ADR").length)] }, rfl,
      hstep frame hv'⟩⟩

/-! ### The lines of a card -/

theorem unbroken_of_all {cs : List Char} (h : (cs.all fun c => c != '\r' && c != '\n') = true) : Unbroken cs := by
  simpa [Unbroken, List.all_eq_true] using h

/-- The lines of a card: `BEGIN:VCARD`, the version, the property lines and
`END:VCARD`. -/
def cardLines (v : Version) (props : List String) : List String :=
  "BEGIN:VCARD" :: ("VERSION:" ++ v.text) :: (props ++ ["END:VCARD"])

/-- **The folded lines of a card read back as that card**, when each property
line unfolds whole and holds no line break, and reading the property lines
takes the empty card of the version to `frame`. -/
theorem read_foldedLines (index : CodecIndex) (settings : Settings) (v : Version) (props : List String)
    (frame : Frame) (hfold : ∀ l ∈ props, unfoldsWhole 75 l = true) (hu : ∀ l ∈ props, Unbroken l.toList)
    (hsteps : ∀ embedded (ls : List LogicalLine), ls.map (·.text) = props →
      PropertySteps index settings embedded { card := { version := v }, depth := 0 } ls frame) :
    Returns (read index settings (String.ofList ((cardLines v props).flatMap fun l => (foldLine 75 l).toList)))
      [assignLabels frame.card frame.labels] := by
  have hb : unfoldsWhole 75 "BEGIN:VCARD" = true := by decide
  have he : unfoldsWhole 75 "END:VCARD" = true := by decide
  have hv : unfoldsWhole 75 ("VERSION:" ++ v.text) = true := by cases v <;> decide
  have hub : Unbroken "BEGIN:VCARD".toList := unbroken_of_all (by decide)
  have hue : Unbroken "END:VCARD".toList := unbroken_of_all (by decide)
  have huv : Unbroken ("VERSION:" ++ v.text).toList := by cases v <;> exact unbroken_of_all (by decide)
  have hmem : ∀ l ∈ cardLines v props, l = "BEGIN:VCARD" ∨ l = "VERSION:" ++ v.text ∨ l ∈ props ∨ l = "END:VCARD" := by
    simp only [cardLines, List.mem_cons, List.mem_append]
    grind
  have hlog := logicalLines_foldLines 75 (cardLines v props)
    (fun l hl => by
      rcases hmem l hl with rfl | rfl | hl | rfl
      exacts [hb, hv, hfold l hl, he])
    (fun l hl => by
      rcases hmem l hl with rfl | rfl | hl | rfl
      exacts [hub, huv, hu l hl, hue])
  simp only [cardLines] at hlog
  obtain ⟨lb, rest, hls, hb', hrest⟩ := List.map_eq_cons_iff.mp hlog
  obtain ⟨lv, rest', rfl, hv', hrest'⟩ := List.map_eq_cons_iff.mp hrest
  obtain ⟨ps, lend, rfl, hps, hend⟩ := List.map_eq_append_iff.mp hrest'
  obtain ⟨le, rfl, he'⟩ := List.map_eq_singleton_iff.mp hend
  exact read_card index settings hls hb' hv' he' (hsteps _ ps hps)

theorem line_fold (V : Version) (s : String) : ({ version := V } : Writer).line true s = foldLine 75 s := by
  have h : (true && ({} : Settings).lineLength != 0) = true := by decide
  unfold Writer.line
  rw [if_pos h]

/-- The `LABEL` line the writer puts after a property, before 4.0. -/
def labelLines (V : Version) (p : Property) : List String :=
  if V = .v40 then [] else
    (labelOf p).toList.filterMap (({ version := V } : Writer).propertyLine? { properties := [p] } none)

/-- A card of one property written on one line is written as its lines,
folded: `BEGIN:VCARD`, the version, the property, its label before 4.0, and
`END:VCARD`. -/
theorem write_singleProperty (V : Version) (p : Property) {lineA : String}
    (hA : ({ version := V } : Writer).propertyLine? { properties := [p] } (some 0) p = some lineA)
    (hL : V ≠ .v40 → ∀ l ∈ labelOf p, ∃ line,
      ({ version := V } : Writer).propertyLine? { properties := [p] } none l = some line) :
    ∃ ws, write { version := V } [{ properties := [p] }] =
      .ok (String.ofList ((cardLines V (lineA :: labelLines V p)).flatMap fun l => (foldLine 75 l).toList), ws) := by
  set w : Writer := { version := V }
  set card : Card := { properties := [p] }
  let text (i : Nat) (q : Property) := w.line true ((w.propertyLine? card (some i) q).getD "")
  let labelText (l : Property) := w.line true ((w.propertyLine? card none l).getD "")
  have hwrite := writeCard_lines w (nesting card) 0 true card text labelText
    (fun i q hq => by
      have hiq : i = 0 ∧ q = p := by simpa [card] using hq
      rw [hiq.1, hiq.2]
      have h := writeProperty_line w (writeCard w (nesting card)) 0 true card (some 0) p hA
      simpa [text, hA] using h)
    (fun h40 q hq l hl => by
      have hqp : q = p := by simpa [card] using hq
      rw [hqp] at hl
      obtain ⟨line, hline⟩ := hL h40 l hl
      have h := writeProperty_line w (writeCard w (nesting card)) 0 true card none l hline
      simpa [labelText, hline] using h)
    rfl rfl
  obtain ⟨ws, hws⟩ := write_singleton w card hwrite
  refine ⟨ws, hws.trans ?_⟩
  -- the text is the card's lines, each folded
  refine congrArg (fun t => Except.ok (t, ws)) ?_
  rw [← String.toList_inj, String.toList_ofList]
  have hzip : (List.range card.properties.length).zip card.properties = [(0, p)] := rfl
  have hv : w.version = V := rfl
  have hfold : ∀ s, w.line true s = foldLine 75 s := line_fold V
  rw [hzip, List.foldl_cons, List.foldl_nil, hv]
  simp only [text, labelText, hA, Option.getD_some, hfold]
  by_cases h40 : V = .v40
  · simp [h40, cardLines, labelLines, String.toList_append]
  · cases hl : labelOf p with
    | none => simp [h40, hl, cardLines, labelLines, String.toList_append]
    | some l =>
      obtain ⟨line, hline⟩ := hL h40 l hl
      simp [h40, hl, hline, w, card, cardLines, labelLines, String.toList_append]

/-- **The lines of a card of one property read back as a card of one
property**: its version, and the property that reading its line adds, but for
the label that a `LABEL` line after it may attach. -/
theorem read_singleProperty (index : CodecIndex) (settings : Settings) (V : Version) {lineA : String}
    {extra : List String} {q : Property} (hfoldA : unfoldsWhole 75 lineA = true) (huA : Unbroken lineA.toList)
    (hstepA : ∀ frame, frame.card.version = V →
      ∀ embedded, LineStep index settings embedded lineA frame { frame with card := frame.card.add q })
    (hextra : extra = [] ∨ ∃ lineL, extra = [lineL] ∧ unfoldsWhole 75 lineL = true ∧ Unbroken lineL.toList ∧
      ∀ frame, frame.card.version = V →
        ∃ frame', frame'.card = frame.card ∧ ∀ embedded, LineStep index settings embedded lineL frame frame') :
    ∃ c, Returns (read index settings (String.ofList ((cardLines V (lineA :: extra)).flatMap fun l =>
        (foldLine 75 l).toList))) [c] ∧
      c.version = V ∧ ∃ q', c.properties = [q'] ∧ q'.value.dropLabel = q.value.dropLabel ∧ (extra = [] → q' = q) := by
  rcases hextra with rfl | ⟨lineL, rfl, hfoldL, huL, hstepL⟩
  · have h := read_foldedLines index settings V [lineA] { card := ({ version := V } : Card).add q, depth := 0 }
      (by simpa using hfoldA) (by simpa using huA)
      (fun embedded ls hls => by
        obtain ⟨la, rfl, hla⟩ := List.map_eq_singleton_iff.mp hls
        exact (hla ▸ hstepA _ rfl embedded).propertySteps (.nil _))
    exact ⟨_, h, rfl, q, rfl, rfl, fun _ => rfl⟩
  · obtain ⟨frame', hcard', hstepL'⟩ := hstepL { card := ({ version := V } : Card).add q, depth := 0 } rfl
    have h := read_foldedLines index settings V [lineA, lineL] frame'
      (by simp [hfoldA, hfoldL]) (by simp [huA, huL])
      (fun embedded ls hls => by
        obtain ⟨la, rest, rfl, hla, hrest⟩ := List.map_eq_cons_iff.mp hls
        obtain ⟨ll, rfl, hll⟩ := List.map_eq_singleton_iff.mp hrest
        exact (hla ▸ hstepA _ rfl embedded).propertySteps ((hll ▸ hstepL' embedded).propertySteps (.nil _)))
    have hmap : (assignLabels frame'.card frame'.labels).properties.map (·.value.dropLabel) = [q.value.dropLabel] := by
      rw [assignLabels_dropLabel, hcard']
      rfl
    obtain ⟨q', hq', hdrop⟩ := List.map_eq_singleton_iff.mp hmap
    refine ⟨_, h, ?_, q', hq', hdrop, fun h => absurd h (List.cons_ne_nil _ _)⟩
    rw [assignLabels_version, hcard']
    rfl

/-! ### The round trip -/

/-- An outcome read off as an option is that outcome: closed writes are
evaluated as options, whose equality is decidable. -/
theorem eq_ok_of_toOption {ε α : Type} {e : Except ε α} {a : α} (h : e.toOption = some a) : e = .ok a := by
  cases e with
  | error _ => cases h
  | ok x =>
    cases h
    rfl

theorem paramValueReadBack_v40 (s : String) :
    ({ version := .v40 } : Writer).paramValueReadBack s = lineFeeds s := by
  unfold Writer.paramValueReadBack
  rw [if_pos (by decide)]
  rfl

/-- In 4.0 the label an address is read back with is its own, but for line ends. -/
theorem addressLabel_readBack_v40 {c : Codec} {p : Property} (hx : Structured c.shape p.value) (self : Option Nat)
    (card : Card) :
    (c.shape.readBack (((c.prepareParams p self .v40 (some card)).getAll "LABEL").head?.map
      ({ version := .v40 } : Writer).paramValueReadBack) p.value).addressLabel = p.value.addressLabel.map lineFeeds := by
  by_cases haddr : ∃ a, p.value = .address a
  · obtain ⟨a, hv⟩ := haddr
    rw [getAll_prepareParams_label (hx.shape_of_address hv) hv, if_pos rfl, hv,
      addressLabel_readBack_address (hv ▸ hx)]
    cases hl : a.label <;> simp [Value.addressLabel, hl, paramValueReadBack_v40]
  · simp only [not_exists] at haddr
    rw [addressLabel_readBack_of_ne hx haddr]
    cases hv : p.value with
    | address a => exact absurd hv (haddr a)
    | _ => rfl

theorem codecFor_label : defaultIndex.codecFor "LABEL" = labelCodec := by decide +kernel

/-- **A structured value comes back from the text it is written as**, whatever
the version: as the value `Shape.readBack` says, up to its label before 4.0,
and in 4.0 with its label as written but for line ends. The value is that of a
property of one of the seven structured names, written alone on a card and
read back with the default settings. It asks that the group and the parameter
names be names, that no parameter value be empty and no `TYPE` value hold a
comma, that there be no `ENCODING`, that a 4.0 label not be empty and a 2.1
label hold no line break, and that each line written, folded at 75, unfold as
one logical line. -/
theorem structured_value_round_trip (V : Version) (p : Property)
    (hname : p.name ∈ ["ADR", "N", "ORG", "CATEGORIES", "NICKNAME", "GENDER", "CLIENTPIDMAP"])
    (hvalue : Structured (defaultIndex.codecFor p.name).shape p.value)
    (hgroup : ∀ g ∈ p.group, IsName g) (hparams : p.params.Portable) (hencoding : p.params.getAll "ENCODING" = [])
    (hlabel : ∀ a, p.value = .address a → ∀ l ∈ a.label, (V = .v40 → l ≠ "") ∧ (V = .v21 → Unbroken l.toList))
    (hfold : ∀ line ∈ ({ version := V } : Writer).propertyLine? { properties := [p] } (some 0) p,
      unfoldsWhole 75 line = true)
    (hfoldLabel : V ≠ .v40 → ∀ l ∈ labelOf p,
      ∀ line ∈ ({ version := V } : Writer).propertyLine? { properties := [p] } none l, unfoldsWhole 75 line = true) :
    ∃ text ws, write { version := V } [{ properties := [p] }] = .ok (text, ws) ∧
      ∃ c, Returns (read defaultIndex {} text) [c] ∧ c.version = V ∧ ∃ q, c.properties = [q] ∧
        q.value.dropLabel = ((defaultIndex.codecFor p.name).shape.readBack none p.value).dropLabel ∧
        (V = .v40 → q.value.addressLabel = p.value.addressLabel.map lineFeeds) := by
  set w : Writer := { version := V }
  set card : Card := { properties := [p] }
  have hcaret : ({} : Settings).caretEncoding = w.settings.caretEncoding := rfl
  have hnm : IsName p.name ∧ Text.upper p.name ∉ ["BEGIN", "END", "VERSION"] := by
    simp only [List.mem_cons, List.not_mem_nil, or_false] at hname
    rcases hname with h | h | h | h | h | h | h <;> rw [h] <;> exact ⟨(isNameChars_iff _).mp (by decide), by decide⟩
  -- the property's line, and what reading it adds to the card
  obtain ⟨lineA, hA, huA, q, hq, hstepA⟩ := readProperty_structured w {} hcaret card (some 0) hvalue hgroup
    hnm.1 hnm.2 hparams hencoding fun h40 a ha l hl => (hlabel a ha l hl).1 h40
  -- before 4.0, the label's line, which reading sets aside
  have hlabelLine := fun (h40 : V ≠ .v40) {l : Property} (hl : labelOf p = some l) =>
    readProperty_label w {} hcaret codecFor_label h40 card hl hgroup hparams
      fun h21 a ha x hx => (hlabel a ha x hx).2 h21
  obtain ⟨ws, hws⟩ := write_singleProperty V p hA fun h40 l hl => by
    obtain ⟨line, hline, -⟩ := hlabelLine h40 hl
    exact ⟨line, hline⟩
  refine ⟨_, ws, hws, ?_⟩
  -- the label line follows the property line before 4.0, when the address has a label
  have hextra : labelLines V p = [] ∨ ∃ lineL, labelLines V p = [lineL] ∧ unfoldsWhole 75 lineL = true ∧
      Unbroken lineL.toList ∧ ∀ frame, frame.card.version = V →
        ∃ frame', frame'.card = frame.card ∧ ∀ embedded, LineStep defaultIndex {} embedded lineL frame frame' := by
    by_cases h40 : V = .v40
    · exact .inl (by simp [labelLines, h40])
    · cases hl : labelOf p with
      | none => exact .inl (by simp [labelLines, h40, hl])
      | some l =>
        obtain ⟨lineL, hL, huL, hstepL⟩ := hlabelLine h40 hl
        have hL' : ({ version := V } : Writer).propertyLine? { properties := [p] } none l = some lineL := hL
        exact .inr ⟨lineL, by simp [labelLines, h40, hl, hL'], hfoldLabel h40 l hl lineL hL, huL, hstepL⟩
  obtain ⟨c, hread, hver, q', hprops, hdrop, heq⟩ :=
    read_singleProperty defaultIndex {} V (hfold lineA hA) huA hstepA hextra
  refine ⟨c, hread, hver, q', hprops, ?_, fun h40 => ?_⟩
  · rw [hdrop, hq, dropLabel_readBack hvalue]
  · have hnil : labelLines V p = [] := by simp [labelLines, h40]
    rw [heq hnil, hq]
    subst h40
    exact addressLabel_readBack_v40 hvalue _ _

/-- An address with a label, as a property. -/
def homeAddress : Property :=
  Property.make "ADR" (.address { streets := ["1 Main St"], label := some "Home" })

-- in 3.0 the label is a line of its own, right after its address
example : (write { version := .v30 } [{ properties := [homeAddress] }]).toOption.map (·.1) =
    some "BEGIN:VCARD\r\nVERSION:3.0\r\nADR:;;1 Main St;;;;\r\nLABEL:Home\r\nEND:VCARD\r\n" := by
  decide +kernel

/-- A labelled address written in 3.0, on two lines, reads back as itself but
for its label. -/
theorem homeAddress_round_trip_v30 :
    ∃ text ws, write { version := .v30 } [{ properties := [homeAddress] }] = .ok (text, ws) ∧
      ∃ c, Returns (read defaultIndex {} text) [c] ∧ c.version = .v30 ∧ ∃ q, c.properties = [q] ∧
        q.value.dropLabel = ((defaultIndex.codecFor homeAddress.name).shape.readBack none homeAddress.value).dropLabel ∧
        (Version.v30 = .v40 → q.value.addressLabel = homeAddress.value.addressLabel.map lineFeeds) := by
  have hshape : (defaultIndex.codecFor homeAddress.name).shape = .address := by decide +kernel
  refine structured_value_round_trip .v30 homeAddress (by decide +kernel) (hshape ▸ .address _)
    (by simp [homeAddress, Property.make]) (Params.Portable.of_entries (by simp [homeAddress, Property.make])) rfl
    (fun _ _ _ _ => ⟨fun h => absurd h (by decide), fun h => absurd h (by decide)⟩) (by decide +kernel)
    (by decide +kernel)

/-- **An address that cannot be read back.** Its line ends in `=` and mentions
`quoted-printable`, so the reader joins `END:VCARD` to it as a soft line break
and the card never ends. -/
theorem quotedPrintable_address_unreadable :
    write { version := .v40 }
        [{ properties := [Property.make "ADR" (.address { countries := ["quoted-printable="] })] }] =
        .ok ("BEGIN:VCARD\r\nVERSION:4.0\r\nADR:;;;;;;quoted-printable=\r\nEND:VCARD\r\n", []) ∧
      ∀ cards, ¬Returns
        (read defaultIndex {} "BEGIN:VCARD\r\nVERSION:4.0\r\nADR:;;;;;;quoted-printable=\r\nEND:VCARD\r\n") cards := by
  have hfail : ((read defaultIndex {}
      "BEGIN:VCARD\r\nVERSION:4.0\r\nADR:;;;;;;quoted-printable=\r\nEND:VCARD\r\n").run.run {}).1.isOk = false := by
    decide +kernel
  refine ⟨eq_ok_of_toOption (by decide +kernel), fun cards h => ?_⟩
  obtain ⟨s, hs⟩ := h {}
  rw [hs] at hfail
  exact absurd hfail (by simp [Except.isOk, Except.toBool])

/-! ### A raw value with a line break -/

/-- A card of a raw value holding a line feed, then a formatted name. -/
def brokenRawCard : Card :=
  { properties := [Property.make "X-FOO" (.raw "a\nEND:VCARD" none), Property.make "FN" (.text (some "z"))] }

/-- The text written for `brokenRawCard` in 3.0: the line feed stays in it. -/
def brokenRawText : String := "BEGIN:VCARD\r\nVERSION:3.0\r\nX-FOO:a\nEND:VCARD\r\nFN:z\r\nEND:VCARD\r\n"

/-- A raw value is written as it is, line feed included. -/
theorem brokenRawCard_written : write { version := .v30 } [brokenRawCard] = .ok (brokenRawText, []) :=
  eq_ok_of_toOption (by decide +kernel)

/-- **A raw value holding a line feed ends its card early**: the text written
for `brokenRawCard` reads back as one card holding `X-FOO` alone, the rest of
the value being read as the card's end, and the formatted name is lost. -/
theorem rawLineFeed_loses_properties :
    write { version := .v30 } [brokenRawCard] = .ok (brokenRawText, []) ∧
      ((read defaultIndex {} brokenRawText).run.run {}).1.toOption.map
        (fun cards => cards.map fun c => c.properties.map (·.name)) = some [["X-FOO"]] :=
  ⟨brokenRawCard_written, by decide +kernel⟩

/-- **Text the writer wrote is not read and written again as itself**: the
text written for `brokenRawCard`, read and written again in 3.0, loses the
formatted name and the rest of the raw value. -/
theorem rawLineFeed_rewrite_differs :
    write { version := .v30 } [brokenRawCard] = .ok (brokenRawText, []) ∧
      ((read defaultIndex {} brokenRawText).run.run {}).1.toOption.bind
        (fun cards => (write { version := .v30 } cards).toOption.map (·.1)) =
        some "BEGIN:VCARD\r\nVERSION:3.0\r\nX-FOO:a\r\nEND:VCARD\r\n" :=
  ⟨brokenRawCard_written, by decide +kernel⟩

/-- A card holding `brokenRawCard` in its `AGENT`. -/
def agentBrokenCard : Card := { properties := [Property.make "AGENT" (.agent (.card brokenRawCard))] }

/-- The text written for `agentBrokenCard` in 3.0: the embedded card is escaped
text, and its raw line feed is escaped with it. -/
def agentBrokenText : String :=
  "BEGIN:VCARD\r\nVERSION:3.0\r\nAGENT:BEGIN:VCARD\\nVERSION:3.0\\nX-FOO:a\\nEND:VCARD\\nFN:z\\nEND:VCARD\r\nEND:VCARD\r\n"

/-- **An embedded card loses what follows a raw line feed**: within the depth
limit, the card written into the `AGENT` reads back holding `X-FOO` alone, and
reading warns of nothing. -/
theorem embeddedRawLineFeed_loses_properties :
    write { version := .v30 } [agentBrokenCard] = .ok (agentBrokenText, []) ∧
      ((read defaultIndex {} agentBrokenText).run.run {}).1.toOption.map
        (fun cards => cards.map fun c => c.embedded.map fun e => e.properties.map (·.name)) = some [[["X-FOO"]]] ∧
      ((read defaultIndex {} agentBrokenText).run.run {}).2.warnings = [] :=
  ⟨eq_ok_of_toOption (by decide +kernel), by decide +kernel, by decide +kernel⟩

end Vcf

end VCard
