import VCard.XCard.Write
import VCard.Proofs.XCard.Grouping
import VCard.Proofs.Codec.Names
/-! Reading back the elements xCard writes.

xCard writes each card as a `<vcard>` element whose children are property
elements and `<group>` elements, and reads a card back from such an element.
This module follows a card through the element tree, short of the text: what
the writer's elements read back as.

* A property element carries its prepared parameters in a `<parameters>` block;
  when their names are case-stable they read back regrouped by name, the same
  parameter set (`readParameters_propertyElementOf`).
* The elements of a card are placed by group (`Item.place`), so the reader meets
  them in the stable grouping of the written properties, each with its group,
  an empty group as none (`readCard_cardElement`).
* An `XML` property is written as the element of its document alone, whatever
  its parameters (`propertyElement_document`), so its parameters are lost. -/
namespace VCard.XCard

/-! ### The parameters block -/

/-- The element of a property: its name in lower case, the block of its
parameters when it has any, then its value children. -/
def propertyElementOf (xmlName : String) (params : Params) (kids : List (String × String)) : Xml.Element :=
  { name := xname (Text.lower xmlName),
    children := (if params.isEmpty then [] else [parametersElement params]) ++
      kids.map fun x => .leaf (xname x.1) x.2 }

theorem foldl_put_eq (name : String) (vs : List String) (acc : Params) :
    vs.foldl (fun p v => p.put name v) acc = ⟨acc.entries ++ vs.map fun v => (Params.key name, v)⟩ := by
  induction vs generalizing acc with
  | nil => simp
  | cons v vs ih =>
    rw [List.foldl_cons, ih]
    simp [Params.put]

/-- Reading the parameter elements of case-stable names one after the other,
each adding its values under its name. -/
theorem foldl_parameterElements {f : Params → Xml.Element → Params}
    (hf : ∀ acc (x : String × List String), CaseStable x.1 → x.2 ≠ [] →
      f acc { name := xname (Text.lower x.1), children := x.2.map (.leaf (xname (parameterValueTag x.1))) } =
        ⟨acc.entries ++ x.2.map fun v => (x.1, v)⟩)
    (L : List (String × List String)) (hL : ∀ x ∈ L, CaseStable x.1 ∧ x.2 ≠ []) (acc : Params) :
    (L.map fun x => ({ name := xname (Text.lower x.1), children := x.2.map (.leaf (xname (parameterValueTag x.1))) } :
      Xml.Element)).foldl f acc = ⟨acc.entries ++ L.flatMap fun x => x.2.map fun v => (x.1, v)⟩ := by
  induction L generalizing acc with
  | nil => simp
  | cons x L ih =>
    rw [List.map_cons, List.foldl_cons, hf acc x (hL x List.mem_cons_self).1 (hL x List.mem_cons_self).2,
      ih (fun y hy => hL y (List.mem_cons_of_mem _ hy))]
    simp

/-- **The parameters block reads back as the parameters regrouped by name**,
when their names are case-stable; with no parameters there is no block, and
nothing reads as one. -/
theorem readParameters_propertyElementOf {P : Params} (hP : ∀ e ∈ P.entries, CaseStable e.1)
    (xmlName : String) (kids : List (String × String)) :
    readParameters (propertyElementOf xmlName P kids) = ⟨P.multimap.flatMap fun x => x.2.map fun v => (x.1, v)⟩ := by
  unfold readParameters propertyElementOf
  by_cases hempty : P.isEmpty
  · have hnil : P.entries = [] := by simpa [Params.isEmpty] using hempty
    have hmulti : P.multimap = [] := by simp [Params.multimap, Params.names, hnil]
    simp only [hempty, if_true, List.nil_append, hmulti, List.flatMap_nil]
    split
    · rfl
    · -- a value child of that name has no children to read
      next block hblock =>
      obtain ⟨x, -, rfl⟩ := List.mem_map.mp (List.mem_of_find?_eq_some hblock)
      rfl
  · have hblock : (parametersElement P).children = P.multimap.map fun x =>
        ({ name := xname (Text.lower x.1), children := x.2.map (.leaf (xname (parameterValueTag x.1))) } :
          Xml.Element) := rfl
    have hname : ((parametersElement P).name == xname "parameters") = true := beq_self_eq_true _
    simp only [hempty, Bool.false_eq_true, if_false, List.cons_append, List.find?_cons, hname, hblock]
    rw [foldl_parameterElements]
    · rfl
    · -- each parameter element adds its values under its name
      intro acc x hx hne
      have hvalues : (x.2.map (Xml.Element.leaf (xname (parameterValueTag x.1)))).map (·.text) = x.2 := by
        simp [Function.comp_def, Xml.Element.leaf]
      have hlocal : (xname (Text.lower x.1)).localName = Text.lower x.1 := rfl
      simp only [hvalues, foldl_put_eq, List.isEmpty_iff, hne, if_false, hlocal, hx.2, hx.1]
    · intro x hx
      obtain ⟨hn, hvs⟩ := Params.mem_multimap.mp hx
      obtain ⟨e, he, hname⟩ := Params.mem_names.mp hn
      have hs := hP e he
      rw [hname] at hs
      exact ⟨hs, hvs ▸ Params.Keyed.getAll_ne_nil (fun e he => (hP e he).1) hn⟩
/-! ### What writing puts down for a property -/

open Vcf (Returns forIn_returns)

/-- The element a property's codec writes for it at a position of a card: none
when its value is skipped or holds a card. -/
def codecElement? (index : CodecIndex) (card : Card) (self : Nat) (prop : Property) : Option Xml.Element :=
  let codec := index.codecForProperty prop
  match (codec.writeXml prop.value .v40).run'.1 with
  | .ok (.written kids) =>
    some (propertyElementOf codec.xmlName ((codec.prepareParams prop (some self) .v40 (some card)).erase "VALUE") kids)
  | _ => none

/-- The element writing puts down for a property at a position of a card: the
element of the document an `XML` property holds, when it is well-formed, else
the element of its codec. -/
def element? (index : CodecIndex) (card : Card) (self : Nat) (prop : Property) : Option Xml.Element :=
  match prop.value with
  | .xml doc => if prop.name == "XML" then (Xml.parse (doc.getD "")).toOption else codecElement? index card self prop
  | _ => codecElement? index card self prop

theorem element?_document {index : CodecIndex} {card : Card} {self : Nat} {prop : Property} {doc : Option String}
    (hname : prop.name = "XML") (hvalue : prop.value = .xml doc) :
    element? index card self prop = (Xml.parse (doc.getD "")).toOption := by
  simp [element?, hvalue, hname]

theorem element?_codec {index : CodecIndex} {card : Card} {self : Nat} {prop : Property}
    (h : ∀ doc, (prop.name == "XML", prop.value) = (true, .xml doc) → False) :
    element? index card self prop = codecElement? index card self prop := by
  unfold element?
  split
  · next doc hvalue =>
    have hname : (prop.name == "XML") = false := by
      cases hn : prop.name == "XML"
      · rfl
      · exact absurd (by rw [hn, hvalue]) (h doc)
    simp [hname]
  · rfl

theorem returns_note (message : String) (property : Option String) : Returns (note message property) () :=
  fun _ => ⟨_, rfl⟩

/-- Writing a property whose value can be written gives the element `element?`
says, or nothing. -/
theorem propertyElement_returns (index : CodecIndex) (card : Card) (self : Nat) (prop : Property)
    (h : ∃ w, ((index.codecForProperty prop).writeXml prop.value .v40).run'.1 = .ok w) :
    Returns (propertyElement index card self prop) (element? index card self prop) := by
  unfold propertyElement
  split
  · -- an `XML` property is its document, or is dropped when that is not well-formed
    next doc hdoc =>
    simp only [Prod.mk.injEq, beq_iff_eq] at hdoc
    rw [element?_document hdoc.1 hdoc.2]
    split
    · next e he => rw [he]; exact Returns.pure _
    · next msg he => rw [he]; exact (returns_note _ _).bind_returns (Returns.pure _)
  · next hnot =>
    rw [element?_codec hnot]
    obtain ⟨w, hw⟩ := h
    unfold codecElement?
    dsimp only
    generalize hrun : ((index.codecForProperty prop).writeXml prop.value .v40).run' = wr at hw ⊢
    obtain ⟨result, messages⟩ := wr
    simp only at hw
    subst hw
    dsimp only
    -- the codec's messages become notes, which change nothing but the warnings
    have hnotes : Returns (forIn messages PUnit.unit fun m _ => do
        note m (some prop.name)
        pure (ForInStep.yield PUnit.unit) : EmitM PUnit) PUnit.unit :=
      forIn_returns (fun _ _ => PUnit.unit) (fun m _ _ => (returns_note _ _).bind_returns (Returns.pure _)) _
    -- a property of no 4.0 codec is noted first
    split
    all_goals
      first
      | refine (returns_note _ _).bind_returns ?_
      | skip
      refine hnotes.bind_returns ?_
      cases w with
      | written kids => exact Returns.pure _
      | skip why => exact (returns_note _ _).bind_returns (Returns.pure _)
      | embedded c => exact (returns_note _ _).bind_returns (Returns.pure _)
/-! ### What writing puts down for a card -/

/-- What writing keeps of a card's properties, in order, each with its element. -/
def keptOf (index : CodecIndex) (card : Card) : List (Property × Xml.Element) :=
  ((List.range card.properties.length).zip card.properties).filterMap fun x =>
    (element? index card x.1 x.2).map fun e => (x.2, e)

/-- The items of the kept properties, placed one at a time by group. -/
def placedOf (index : CodecIndex) (card : Card) : List Item :=
  (keptOf index card).foldl (fun items x => Item.place items x.1.group x.2) []

theorem foldl_elim {α β γ : Type} (f : α → Option β) (g : γ → β → γ) (xs : List α) (init : γ) :
    xs.foldl (fun acc x => (f x).elim acc (g acc)) init = (xs.filterMap f).foldl g init := by
  induction xs generalizing init with
  | nil => rfl
  | cons x xs ih =>
    rw [List.foldl_cons, ih, List.filterMap_cons]
    cases f x <;> rfl

/-- Writing a card whose values can all be written gives the `<vcard>` element of
its placed items. -/
theorem cardElement_returns (index : CodecIndex) (card : Card)
    (h : ∀ p ∈ card.properties, ∃ w, ((index.codecForProperty p).writeXml p.value .v40).run'.1 = .ok w) :
    Returns (cardElement index card) { name := xname "vcard", children := (placedOf index card).map Item.element } := by
  unfold cardElement
  dsimp only
  refine (forIn_returns (fun acc x => ((element? index card x.1 x.2).map fun e => (x.2, e)).elim acc
    fun y => Item.place acc y.1.group y.2) ?_ _).bind_returns ?_
  · rintro ⟨i, p⟩ hx acc
    refine (propertyElement_returns index card i p (h p (List.of_mem_zip hx).2)).bind_returns ?_
    cases element? index card i p <;> exact Returns.pure _
  · rw [foldl_elim]
    split
    · exact (returns_note _ _).bind_returns (Returns.pure _)
    · exact Returns.pure _
/-! ### Reading a card element back -/

/-- Reading the elements of items one after the other: a group's elements with
its group, and an element of no group without one. -/
theorem foldl_items (index : CodecIndex) (types : DataType.Registry) (items : List Item)
    (hsingle : ∀ e, Item.single e ∈ items → e.name ≠ xname "group")
    (hgroup : ∀ n es, Item.group n es ∈ items → n ≠ "") (st : Card × List Warning) :
    (items.map Item.element).foldl (fun st child =>
        if child.name == xname "group" then
          child.children.foldl (readProperty index types
            ((child.attr? ⟨none, "name"⟩).bind fun g => if g.isEmpty then none else some g)) st
        else readProperty index types none st child) st =
      (items.flatMap Item.visit).foldl (fun st x => readProperty index types x.1 st x.2) st := by
  induction items generalizing st with
  | nil => rfl
  | cons i items ih =>
    have ih := ih (fun e he => hsingle e (List.mem_cons_of_mem _ he))
      (fun n es he => hgroup n es (List.mem_cons_of_mem _ he))
    rw [List.map_cons, List.foldl_cons, List.flatMap_cons, List.foldl_append, ih]
    congr 1
    cases i with
    | group n es =>
      -- a group element names its group
      have hn : n.isEmpty = false := String.isEmpty_eq_false_iff.mpr (hgroup n es List.mem_cons_self)
      have hattr : (Item.element (.group n es)).attr? ⟨none, "name"⟩ = some n := by
        simp [Item.element, Xml.Element.attr?]
      simp only [hattr, Option.bind_some, hn, Bool.false_eq_true, if_false, Item.visit, List.foldl_map]
      simp [Item.element]
    | single e =>
      have hname : (e.name == xname "group") = false := beq_false_of_ne (hsingle e List.mem_cons_self)
      simp only [Item.element, hname, Bool.false_eq_true, if_false, Item.visit, List.foldl_cons, List.foldl_nil]

/-- **A written card element reads back as its kept properties' elements, in
the stable grouping of the properties, each with its group**, an empty group
as none, when no element is named as a group. -/
theorem readCard_cardElement (index : CodecIndex) (types : DataType.Registry) (card : Card) (ws : List Warning)
    (hwrite : ∀ p ∈ card.properties, ∃ w, ((index.codecForProperty p).writeXml p.value .v40).run'.1 = .ok w)
    (hnames : ∀ x ∈ keptOf index card, x.2.name ≠ xname "group") :
    ∃ root, Returns (cardElement index card) root ∧
      readCard index types ws root =
        (groupStable ((keptOf index card).map fun x => (nonEmptyGroup x.1.group, x.2))).foldl
          (fun st x => readProperty index types x.1 st x.2) ({ version := .v40 }, ws) := by
  refine ⟨_, cardElement_returns index card hwrite, ?_⟩
  -- the placed items are the kept elements laid out group by group
  have hplaced : placedOf index card = blocks ((keptOf index card).map fun x => (nonEmptyGroup x.1.group, x.2)) := by
    rw [placedOf, ← foldl_place _ fun x hx => by
      obtain ⟨y, -, rfl⟩ := List.mem_map.mp hx
      exact nonEmptyGroup_ne_empty _]
    simp only [List.foldl_map, place_nonEmptyGroup]
  unfold readCard
  rw [foldl_items]
  · rw [hplaced, visit_blocks]
  · intro e he
    rw [hplaced] at he
    obtain ⟨x, hx, hxe⟩ := List.mem_map.mp (single_mem_blocks he)
    simp only [Prod.mk.injEq] at hxe
    exact hxe.2 ▸ hnames x hx
  · intro n es he
    rw [hplaced] at he
    obtain ⟨a, ha⟩ := group_mem_blocks he
    obtain ⟨x, -, hxe⟩ := List.mem_map.mp ha
    simp only [Prod.mk.injEq] at hxe
    intro hn
    exact nonEmptyGroup_ne_empty x.1.group (hn ▸ hxe.1)
/-! ### The parameters of the kept properties -/

theorem codecElement?_spec {index : CodecIndex} {card : Card} {self : Nat} {prop : Property} {e : Xml.Element}
    (h : codecElement? index card self prop = some e) :
    ∃ kids, e = propertyElementOf (index.codecForProperty prop).xmlName
      (((index.codecForProperty prop).prepareParams prop (some self) .v40 (some card)).erase "VALUE") kids := by
  unfold codecElement? at h
  dsimp only at h
  split at h
  · next kids _ =>
    cases h
    exact ⟨kids, rfl⟩
  · cases h

theorem mem_keptOf {index : CodecIndex} {card : Card} {x : Property × Xml.Element} (h : x ∈ keptOf index card) :
    x.1 ∈ card.properties ∧ ∃ self, element? index card self x.1 = some x.2 := by
  obtain ⟨⟨self, prop⟩, hx, hmap⟩ := List.mem_filterMap.mp h
  obtain ⟨e, he, rfl⟩ := Option.map_eq_some_iff.mp hmap
  exact ⟨(List.of_mem_zip hx).2, self, he⟩

/-- The parameters read from the element of a kept property other than `XML`
are the parameters it was written with, when its own parameter names are
case-stable. -/
theorem readParameters_kept {index : CodecIndex} {card : Card} {x : Property × Xml.Element}
    (h : x ∈ keptOf index card) (hname : x.1.name ≠ "XML") (hparams : ∀ e ∈ x.1.params.entries, CaseStable e.1) :
    ∃ self : Nat, (readParameters x.2).sameAs
      (((index.codecForProperty x.1).prepareParams x.1 (some self) .v40 (some card)).erase "VALUE") = true := by
  obtain ⟨-, self, he⟩ := mem_keptOf h
  have hcodec : element? index card self x.1 = codecElement? index card self x.1 :=
    element?_codec fun doc hdoc => hname (by simpa using congrArg Prod.fst hdoc)
  obtain ⟨kids, hkids⟩ := codecElement?_spec (hcodec ▸ he)
  refine ⟨self, ?_⟩
  have hstable := Codec.caseStable_prepareParams (c := index.codecForProperty x.1) hparams (some self) .v40 (some card)
  have hkeyed : (((index.codecForProperty x.1).prepareParams x.1 (some self) .v40 (some card)).erase "VALUE").Keyed :=
    fun e he => (hstable e he).1
  rw [hkids, readParameters_propertyElementOf hstable]
  simpa using Params.sameAs_regroup hkeyed id

/-- Two notes in a group around a formatted name of none, the first with a type. -/
def workNotesCard : Card :=
  { version := .v40,
    properties := [{ group := some "WORK", name := "NOTE", params := ⟨[("TYPE", "HOME")]⟩, value := .text (some "a") },
      { name := "FN", value := .text (some "b") },
      { group := some "WORK", name := "NOTE", value := .text (some "c") }] }

/-- **An `XML` property is written as the element of its document alone**: the
element written for an `XML` property with a well-formed document is that
document's element, whatever the property's parameters. -/
theorem propertyElement_document (index : CodecIndex) (card : Card) (self : Nat) (prop : Property)
    {doc : Option String} (hname : prop.name = "XML") (hvalue : prop.value = .xml doc) {e : Xml.Element}
    (he : Xml.parse (doc.getD "") = .ok e) : Returns (propertyElement index card self prop) (some e) := by
  unfold propertyElement
  simp only [hname, hvalue, beq_self_eq_true, he]
  exact Returns.pure _

/-- A document of a foreign namespace reads back as an `XML` property. -/
example : (readProperty defaultIndex {} none ({ version := .v40 }, [])
    { name := ⟨some "urn:x", "a"⟩ }).1.properties.map (·.name) = ["XML"] := by
  decide +kernel

/-- An `XML` property with the parameter `X-P=1`. -/
def xmlParamCard : Card :=
  { version := .v40,
    properties := [{ name := "XML", params := ⟨[("X-P", "1")]⟩, value := .xml (some "<a xmlns=\"urn:x\"/>") }] }

end VCard.XCard
