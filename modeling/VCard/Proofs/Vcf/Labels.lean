import VCard.Proofs.Vcf.Single
/-! Address labels before 4.0.

Before 4.0 an address's label is not a parameter: the writer puts it on a
`LABEL` line right after the address, with the address's types but `pref`
(`labelTypes`), and the reader sets each label aside until the card ends, when
it gives it to the latest address before it that has no label yet and the same
set of types (`assignLabels`).

So a label comes back to its address only when the address is written without
`pref` among its types. `address_label_round_trip` proves this for a card of one
address: with no `PREF` parameter and no `pref` type, the label comes back, line
ends as LF, and nothing is orphaned. `preferredAddress_label_lost` is the other
side: an address whose types are all `pref` is written with them and its label
line with none, so the label comes back orphaned and the address without it, as
for `preferredAddress`.

The kernel cannot run `typeSet`, which sorts, so these are proved through the
lines read (`read_addressCard`), not by evaluating the reader. -/
namespace VCard.Vcf

open ContentLine Text Codec Params

/-! ### Writing a card of one address -/

theorem labelOf_address {p : Property} {a : Address} (hname : p.name = "ADR") (hv : p.value = .address a) :
    labelOf p = a.label.map fun x => Property.make "LABEL" (.label (some x)) (labelTypes p.params) p.group := by
  simp [labelOf, hname, hv, labelTypes]

-- the label line of `homeAddress` has no types, as the address has none
example : (labelOf homeAddress).map (fun l => (l.name, l.params.types)) = some ("LABEL", []) := by
  decide +kernel

/-- A card whose one property has no `PREF` ranks nothing. -/
theorem ranked_single {p : Property} (hpref : p.params.getAll "PREF" = []) (name : String) :
    ranked { properties := [p] } name = [] := by
  have hnone : p.params.pref? = none := by
    simp [pref?, getInt?, get?_eq_head?_getAll, hpref]
  simp [ranked, hnone]

/-- Before 4.0 an address of a card of one property, without `PREF`, is written
with its own parameters but `PREF` and `LABEL`. -/
theorem prepareParams_address {p : Property} {a : Address} (hv : p.value = .address a)
    (hpref : p.params.getAll "PREF" = []) {V : Version} (h40 : V ≠ .v40) :
    (⟨"ADR", .address, true⟩ : Codec).prepareParams p (some 0) V (some { properties := [p] }) =
      (p.params.erase "PREF").erase "LABEL" := by
  have h40' : (V == .v40) = false := by simpa using h40
  have hpreferred : preferenceFor p.name (some 0) p.params V (some { properties := [p] }) = p.params.erase "PREF" := by
    simp [preferenceFor, h40', ranked_single hpref, preferred?]
  unfold prepareParams prepareOwn
  simp only [if_true, hpreferred, hv]
  cases a.label <;> simp [h40']

/-- The address a card of one address reads back as, before labels are attached:
its components as written, and its parameters but `PREF` and `LABEL`, as read. -/
def Writer.addressRead (w : Writer) (p : Property) (a : Address) : Property :=
  Property.make p.name (.address (Address.ofComponents (a.components.map itemsBack) none))
    (((w.paramsReadBack (((p.params.erase "PREF").erase "LABEL").setValueType none)).erase "VALUE").erase "LABEL")
    p.group

theorem addressRead_name (w : Writer) {p : Property} (hname : p.name = "ADR") (a : Address) :
    (w.addressRead p a).name = "ADR" := by
  simp only [Writer.addressRead, Property.make, hname]
  decide

/-! ### The types compared -/

theorem getAll_labelTypes (p : Params) :
    (labelTypes p).getAll "TYPE" = p.types.filter (Text.lower · != "pref") := by
  simp [labelTypes, ofList, getAll, List.filter_map, Function.comp_def]

/-- The types the reader finds on a line written with the parameters `P`. -/
theorem types_paramsReadBack (w : Writer) (P : Params) :
    ((w.paramsReadBack P).erase "VALUE").types = P.types.map w.paramValueReadBack := by
  rw [types, getAll_erase_ne _ (by decide)]
  exact getAll_regroup _ _ (by decide)

/-- The label read back has the address's types but `pref`, as read. -/
theorem types_labelRead (w : Writer) (p : Property) (x : String) :
    (w.labelRead p x).params.types = (p.params.types.filter (Text.lower · != "pref")).map w.paramValueReadBack := by
  rw [Writer.labelRead, Property.make, types_paramsReadBack, types, getAll_erase_ne _ (by decide), getAll_labelTypes]

/-- The address read back has its own types, as read. -/
theorem types_addressRead (w : Writer) (p : Property) (a : Address) :
    (w.addressRead p a).params.types = p.params.types.map w.paramValueReadBack := by
  rw [Writer.addressRead, Property.make, types, getAll_erase_ne _ (by decide), ← types, types_paramsReadBack, types,
    getAll_setValueType_ne _ _ (by decide), getAll_erase_ne _ (by decide), getAll_erase_ne _ (by decide)]
  rfl

theorem typeSet_eq_nil {p : Params} : typeSet p = [] ↔ p.types = [] := by
  unfold typeSet
  rw [← List.length_eq_zero_iff, List.length_mergeSort, List.length_eq_zero_iff]
  cases p.types <;> simp [List.eraseDups_cons]

/-- The address and its label are read back with the same set of types when the
address has no `pref` type. -/
theorem typeSet_addressRead_labelRead (w : Writer) {p : Property} (htypes : ∀ t ∈ p.params.types, Text.lower t ≠ "pref")
    (a : Address) (x : String) : typeSet (w.addressRead p a).params = typeSet (w.labelRead p x).params := by
  have hfilter : p.params.types.filter (Text.lower · != "pref") = p.params.types :=
    List.filter_eq_self.mpr fun t ht => by simpa using htypes t ht
  unfold typeSet
  rw [types_addressRead, types_labelRead, hfilter]

/-! ### Labels attached at the end of a card -/

/-- A label after the one address of a card goes to it when the address has no
label yet and the same types. -/
theorem assignLabels_single (c : Card) {q l : Property} {t : String} (hc : c.properties = [q]) (hq : q.name = "ADR")
    (hunl : isUnlabelledAddress q = true) (htypes : typeSet q.params = typeSet l.params)
    (hl : l.value = .label (some t)) :
    assignLabels c [(l, 1)] = { c with properties := [withLabel q t] } := by
  have hpos : positionsNamed c "ADR" = [0] := by simp [positionsNamed, hc, hq]
  simp [assignLabels, hpos, hc, hunl, htypes, hl]

/-- A label after the one address of a card is orphaned when the types differ. -/
theorem assignLabels_orphan (c : Card) {q l : Property} (hc : c.properties = [q]) (hq : q.name = "ADR")
    (htypes : typeSet q.params ≠ typeSet l.params) :
    assignLabels c [(l, 1)] = { c with orphanedLabels := c.orphanedLabels ++ [l] } := by
  have hpos : positionsNamed c "ADR" = [0] := by simp [positionsNamed, hc, hq]
  simp [assignLabels, hpos, hc, htypes]

/-! ### A card of one address -/

/-- **A card of one address, written before 4.0, reads back as the address
with its label line's label attached as `assignLabels` does.** The address has
no `PREF` parameter, and asks what any address line asks: names for its group
and parameter names, no empty parameter value and no comma in a `TYPE` value, no
`ENCODING`, no line break in a 2.1 label, and lines that, folded at 75, unfold
as one logical line each. -/
theorem read_addressCard (V : Version) (h40 : V ≠ .v40) (p : Property) {a : Address}
    (hname : p.name = "ADR") (hvalue : p.value = .address a) (hpref : p.params.getAll "PREF" = [])
    (hgroup : ∀ g ∈ p.group, IsName g) (hparams : p.params.Portable) (hencoding : p.params.getAll "ENCODING" = [])
    (h21 : V = .v21 → ∀ l ∈ a.label, Unbroken l.toList)
    (hfold : ∀ line ∈ ({ version := V } : Writer).propertyLine? { properties := [p] } (some 0) p,
      unfoldsWhole 75 line = true)
    (hfoldLabel : ∀ l ∈ labelOf p,
      ∀ line ∈ ({ version := V } : Writer).propertyLine? { properties := [p] } none l, unfoldsWhole 75 line = true) :
    ∃ text ws, write { version := V } [{ properties := [p] }] = .ok (text, ws) ∧
      Returns (read defaultIndex {} text)
        [assignLabels (({ version := V } : Card).add (({ version := V } : Writer).addressRead p a))
          (a.label.map fun x => (({ version := V } : Writer).labelRead p x, 1)).toList] := by
  set w : Writer := { version := V }
  set card : Card := { properties := [p] }
  have hcodec : defaultIndex.codecFor p.name = ⟨"ADR", .address, true⟩ := by
    rw [hname]
    decide +kernel
  have hx : Structured (defaultIndex.codecFor p.name).shape p.value := by
    rw [hcodec, hvalue]
    exact .address a
  have hprep : (defaultIndex.codecFor p.name).prepareParams p (some 0) V (some card) =
      (p.params.erase "PREF").erase "LABEL" := by
    rw [hcodec]
    exact prepareParams_address hvalue hpref h40
  set P := (p.params.erase "PREF").erase "LABEL"
  set back := (w.paramsReadBack (P.setValueType none)).erase "VALUE"
  -- the address's line: the address read back has no label yet
  obtain ⟨t, hwrite, hu, hread⟩ := readText_writeText hx V
  have hP : (P.setValueType none).Portable := ((hparams.erase _).erase _).setValueType (by simp)
  have hE : ∀ e ∈ P.getAll "ENCODING", Text.lower (w.paramValueReadBack e) ≠ "quoted-printable" := by
    rw [getAll_erase_ne _ (by decide), getAll_erase_ne _ (by decide), hencoding]
    exact fun _ h => absurd h List.not_mem_nil
  have hnoLabel : (back.getAll "LABEL").head? = none := by
    rw [getAll_erase_ne _ (by decide)]
    rw [show (w.paramsReadBack (P.setValueType none)).getAll "LABEL" = ((P.setValueType none).getAll "LABEL").map
      w.paramValueReadBack from getAll_regroup _ _ (by decide)]
    rw [getAll_setValueType_ne _ _ (by decide), getAll_erase_self]
    rfl
  have hqA : Property.make p.name ((defaultIndex.codecFor p.name).shape.readBack (back.getAll "LABEL").head? p.value)
      ((defaultIndex.codecFor p.name).shape.readParams back) p.group = w.addressRead p a := by
    simp only [hcodec, hvalue, hnoLabel]
    rfl
  have hnm : IsName p.name := by
    rw [hname]
    exact (isNameChars_iff _).mp (by decide)
  have hkey : Text.upper p.name ∉ ["BEGIN", "END", "VERSION"] := by
    rw [hname]
    decide
  obtain ⟨lineA, hA, huA, hstepA⟩ := readProperty_line w {} rfl card (some 0)
    ((codecForProperty_of_structured _ hx)) rfl hprep (valueParameter_structured hx V) (congrArg Prod.fst hwrite) hu
    hgroup hnm hkey hP hE (fun types => ⟨types, hread _ _ types⟩)
    (fun l h => by rw [hcodec, hvalue] at h; cases h)
  rw [hqA] at hstepA
  have hstepA' : ∀ frame, frame.card.version = V → ∀ embedded,
      LineStep defaultIndex {} embedded lineA frame { frame with card := frame.card.add (w.addressRead p a) } :=
    fun frame hv embedded => (hstepA frame hv embedded).lineStep
  -- the card after the address's line
  set F : Frame := { card := ({ version := V } : Card).add (w.addressRead p a), depth := 0 }
  cases hlab : a.label with
  | none =>
    -- no label line
    have hnil : labelLines V p = [] := by simp [labelLines, h40, labelOf_address hname hvalue, hlab]
    obtain ⟨ws, hws⟩ := write_singleProperty V p hA fun _ l hl => by
      rw [labelOf_address hname hvalue, hlab] at hl
      cases hl
    rw [hnil] at hws
    exact ⟨_, ws, hws, read_foldedLines defaultIndex {} V [lineA] F (by simpa using hfold lineA hA)
      (by simpa using huA) fun embedded ls hls => by
        obtain ⟨la, rfl, hla⟩ := List.map_eq_singleton_iff.mp hls
        exact (hla ▸ hstepA' _ rfl embedded).propertySteps (.nil _)⟩
  | some x =>
    -- the label line follows, and reading it sets the label aside
    have hlabelOf : labelOf p = some (Property.make "LABEL" (.label (some x)) (labelTypes p.params) p.group) := by
      rw [labelOf_address hname hvalue, hlab]
      rfl
    obtain ⟨lineL, hL, huL, hstepL⟩ := readProperty_labelLine w {} rfl codecFor_label h40 card x hgroup hparams
      fun h => h21 h x hlab
    have hlines : labelLines V p = [lineL] := by simp [labelLines, h40, hlabelOf, w, card, hL]
    obtain ⟨ws, hws⟩ := write_singleProperty V p hA fun _ l hl => by
      rw [hlabelOf, Option.mem_some_iff] at hl
      exact ⟨lineL, hl ▸ hL⟩
    rw [hlines] at hws
    have hpos : (positionsNamed F.card "ADR").length = 1 := by
      simp [positionsNamed, F, Card.add, addressRead_name w hname a]
    exact ⟨_, ws, hws, read_foldedLines defaultIndex {} V [lineA, lineL] { F with labels := [(w.labelRead p x, 1)] }
      (by simp [hfold lineA hA, hfoldLabel _ hlabelOf lineL hL]) (by simp [huA, huL]) fun embedded ls hls => by
        obtain ⟨la, rest, rfl, hla, hrest⟩ := List.map_eq_cons_iff.mp hls
        obtain ⟨ll, rfl, hll⟩ := List.map_eq_singleton_iff.mp hrest
        have h := hstepL F rfl embedded
        rw [hpos] at h
        exact (hla ▸ hstepA' _ rfl embedded).propertySteps ((hll ▸ h).propertySteps (.nil _))⟩

/-- **Before 4.0 an address whose types are all `pref` loses its label**: the
label line carries the address's types but `pref`, so none, while the address
keeps its own, and the label comes back orphaned, the address without it. The
address asks what `read_addressCard` asks. -/
theorem preferredAddress_label_lost (V : Version) (h40 : V ≠ .v40) (p : Property) {a : Address} {x : String}
    (hname : p.name = "ADR") (hvalue : p.value = .address a) (hlab : a.label = some x)
    (hpref : p.params.getAll "PREF" = []) (htypes : p.params.types ≠ [])
    (hall : ∀ t ∈ p.params.types, Text.lower t = "pref")
    (hgroup : ∀ g ∈ p.group, IsName g) (hparams : p.params.Portable) (hencoding : p.params.getAll "ENCODING" = [])
    (h21 : V = .v21 → Unbroken x.toList)
    (hfold : ∀ line ∈ ({ version := V } : Writer).propertyLine? { properties := [p] } (some 0) p,
      unfoldsWhole 75 line = true)
    (hfoldLabel : ∀ l ∈ labelOf p,
      ∀ line ∈ ({ version := V } : Writer).propertyLine? { properties := [p] } none l, unfoldsWhole 75 line = true) :
    ∃ text ws, write { version := V } [{ properties := [p] }] = .ok (text, ws) ∧
      ∃ c, Returns (read defaultIndex {} text) [c] ∧ c.properties.map (·.value.addressLabel) = [none] ∧
        c.orphanedLabels = [({ version := V } : Writer).labelRead p x] := by
  obtain ⟨text, ws, hws, hread⟩ := read_addressCard V h40 p hname hvalue hpref hgroup hparams hencoding
    (fun h l hl => by rw [hlab, Option.mem_some_iff] at hl; exact hl ▸ h21 h) hfold hfoldLabel
  set w : Writer := { version := V }
  -- the label has no types left, the address has some
  have hnone : p.params.types.filter (Text.lower · != "pref") = [] :=
    List.filter_eq_nil_iff.mpr fun t ht => by simp [hall t ht]
  have hdiffer : typeSet (w.addressRead p a).params ≠ typeSet (w.labelRead p x).params := by
    have hlabel : typeSet (w.labelRead p x).params = [] := typeSet_eq_nil.mpr (by rw [types_labelRead, hnone]; rfl)
    rw [hlabel]
    intro h
    exact htypes (List.map_eq_nil_iff.mp ((types_addressRead w p a).symm.trans (typeSet_eq_nil.mp h)))
  rw [hlab, Option.map_some, Option.toList_some,
    assignLabels_orphan _ rfl (addressRead_name w hname a) hdiffer] at hread
  exact ⟨text, ws, hws, _, hread, rfl, rfl⟩

/-- A preferred address with a label. -/
def preferredAddress : Property :=
  Property.make "ADR" (.address { streets := ["x"], label := some "L" }) (Params.ofList [("TYPE", "pref")])

end VCard.Vcf
