import VCard.JCard.Write
import VCard.JCard.Read
import VCard.Proofs.Json.Text
import VCard.Proofs.Codec.Index
import VCard.Proofs.Vcf.Write
import VCard.Proofs.Codec.Names
/-! Reading back written jCard.

jCard writes each card as `["vcard", [version, property, …]]` and reads each
property array back through the property's codec. Between the two, three
things can change a property: its name is written in lower case and read in
capitals, its parameters are written as an object keyed by lower-case names
and read back name by name, and its group is written into that same object as
the member `group`.

* A name whose lower case and capitals lead back to it (`CaseStable`) keeps it.
* A parameter set whose names are case-stable and none of whose member names
  the reader takes for the group (`ObjectName`) comes back regrouped by name,
  which is the same parameter set (`readParameters_paramObject`,
  `Written.Readable.readParams_sameAs`); a non-empty group comes back, an empty
  one as none.
* The reader takes every member named `group`, in any case, for the group, so
  a parameter of that name does not come back as a parameter: when the
  property has a group the parameter is lost, and when it has none the
  parameter's value becomes its group.

The written document is JSON text of strings, arrays and objects of distinct
keys only, so it parses back as itself (`textual_cardArrayOf`), and each jCard
is read as its written properties (`readCard_cardArrayOf`).

`read_write_jcard`: when every value can be written, every property name is
case-stable and no property is named `VERSION`, and every parameter name is an
`ObjectName`, writing the cards and reading the text back gives one card of
version 4.0 per card (`ReadBackOf`), and the reader gets each written property
under its own name, with its prepared parameters and its group. -/
namespace VCard

/-- A parameter name that the jCard parameter object carries through: case-stable,
and not read back as the group. -/
def ObjectName (n : String) : Prop := CaseStable n ∧ Text.lower (Text.lower n) ≠ "group"

instance : DecidablePred ObjectName := fun _ => inferInstanceAs (Decidable (_ ∧ _))

namespace JCard

/-! ### The parameter object -/

/-- Parameter members of distinct keys are set one after the other. -/
theorem foldl_assocSet_fresh {α β : Type} (key : β → String) (val : β → α) (xs : List β)
    (acc : List (String × α)) (hnd : (xs.map key).Nodup) (hacc : ∀ x ∈ xs, key x ∉ acc.map Prod.fst) :
    xs.foldl (fun acc x => assocSet acc (key x) (val x)) acc = acc ++ xs.map fun x => (key x, val x) := by
  induction xs generalizing acc with
  | nil => simp
  | cons x xs ih =>
    rw [List.foldl_cons, assocSet_of_not_mem (hacc x List.mem_cons_self), ih]
    · simp
    · exact (List.nodup_cons.mp hnd).2
    · intro y hy
      simp only [List.map_append, List.mem_append, List.map_cons, List.map_nil, List.mem_singleton, not_or]
      refine ⟨hacc y (List.mem_cons_of_mem _ hy), fun h => (List.nodup_cons.mp hnd).1 ?_⟩
      rw [← h]
      exact List.mem_map_of_mem hy

/-- The parameter members of a parameter set whose names are `ObjectName`s: one
per name, in order, under the name in lower case. -/
theorem paramMembers_eq {P : Params} (hP : ∀ e ∈ P.entries, ObjectName e.1) :
    P.multimap.foldl (fun acc x => assocSet acc (Text.lower x.1) (paramValue x.2)) [] =
      P.multimap.map fun x => (Text.lower x.1, paramValue x.2) := by
  have hnames : ∀ n ∈ P.names, ObjectName n := by
    intro n hn
    obtain ⟨e, he, rfl⟩ := Params.mem_names.mp hn
    exact hP e he
  have hkeys : (P.multimap.map fun x => Text.lower x.1) = P.names.map Text.lower := by
    simp [Params.multimap, Function.comp_def]
  rw [foldl_assocSet_fresh _ _ _ _ _ (by simp)]
  · simp
  · -- lower case keeps case-stable names apart
    rw [hkeys]
    refine (List.nodup_map_iff_inj_on (Params.nodup_names P)).mpr fun a ha b hb h => ?_
    exact (hnames a ha).1.lower_inj (hnames b hb).1 h

theorem paramObject_none (P : Params) :
    paramObject P none = P.multimap.foldl (fun acc x => assocSet acc (Text.lower x.1) (paramValue x.2)) [] :=
  rfl

theorem paramObject_some (P : Params) (g : String) :
    paramObject P (some g) = if g.isEmpty then paramObject P none else assocSet (paramObject P none) "group" (.str g) :=
  rfl

/-- The group as it is read back: a group that is not empty. -/
def readGroup (g : Option String) : Option String := g.filter fun x => !x.isEmpty

/-- The parameter object of object-named parameters: a member per name, then the
group when it is not empty. -/
theorem paramObject_eq {P : Params} (hP : ∀ e ∈ P.entries, ObjectName e.1) (g : Option String) :
    paramObject P g =
      P.multimap.map (fun x => (Text.lower x.1, paramValue x.2)) ++ ((readGroup g).map fun x => ("group", .str x)).toList := by
  cases g with
  | none => simp [paramObject_none, paramMembers_eq hP, readGroup]
  | some x =>
    rw [paramObject_some, paramObject_none, paramMembers_eq hP]
    by_cases hx : x.isEmpty
    · simp [hx, readGroup, Option.filter]
    · -- no member name is `group`, so the group is set at the end
      have hfresh : "group" ∉ (P.multimap.map fun x => (Text.lower x.1, paramValue x.2)).map Prod.fst := by
        simp only [List.map_map, List.mem_map, Function.comp_def, not_exists, not_and]
        intro nv hnv hlow
        obtain ⟨hn, -⟩ := Params.mem_multimap.mp hnv
        obtain ⟨e, he, hname⟩ := Params.mem_names.mp hn
        have hobj := (hP e he).2
        rw [hname, hlow] at hobj
        exact hobj (by decide)
      simp [hx, readGroup, Option.filter, assocSet_of_not_mem hfresh]

theorem foldl_put (name : String) (items : List Json.Value) (acc : Params) :
    items.foldl (fun p item => p.put name item.plain) acc =
      ⟨acc.entries ++ items.map fun item => (Params.key name, item.plain)⟩ := by
  induction items generalizing acc with
  | nil => simp
  | cons item items ih =>
    rw [List.foldl_cons, ih]
    simp [Params.put]

/-- Reading parameter members one after the other, each adding its values under
its name. -/
theorem foldl_paramMembers {f : Params × Option String → String × Json.Value → Params × Option String}
    (hf : ∀ acc (x : String × List String), ObjectName x.1 →
      f acc (Text.lower x.1, paramValue x.2) = (⟨acc.1.entries ++ x.2.map fun v => (x.1, v)⟩, acc.2))
    (L : List (String × List String)) (hL : ∀ x ∈ L, ObjectName x.1) (acc : Params × Option String) :
    (L.map fun x => (Text.lower x.1, paramValue x.2)).foldl f acc =
      (⟨acc.1.entries ++ L.flatMap fun x => x.2.map fun v => (x.1, v)⟩, acc.2) := by
  induction L generalizing acc with
  | nil => simp
  | cons x L ih =>
    rw [List.map_cons, List.foldl_cons, hf acc x (hL x List.mem_cons_self),
      ih (fun y hy => hL y (List.mem_cons_of_mem _ hy))]
    simp

/-- **The parameter object reads back as the parameters regrouped by name, and
the group**, when every parameter name is an `ObjectName`. -/
theorem readParameters_paramObject {P : Params} (hP : ∀ e ∈ P.entries, ObjectName e.1) (g : Option String) :
    readParameters (.obj (paramObject P g)) =
      (⟨P.multimap.flatMap fun x => x.2.map fun v => (x.1, v)⟩, readGroup g) := by
  rw [paramObject_eq hP]
  simp only [readParameters]
  rw [List.foldl_append, foldl_paramMembers]
  · -- the group member, when there is one, is read as the group
    cases hg : readGroup g with
    | none => simp
    | some x =>
      have hx : x ≠ "" := by simpa using (Option.filter_eq_some_iff.mp hg).2
      have hlow : Text.lower "group" = "group" := by decide
      simp [hlow, hx, Json.Value.plain]
  · -- every other member adds its values under its name
    intro acc x hx
    have hnot : (Text.lower (Text.lower x.1) == "group") = false := by simpa using hx.2
    have hkey : Params.key (Text.lower x.1) = x.1 := hx.1.2
    simp only [hnot, Bool.false_eq_true, if_false, foldl_put, hkey]
    obtain ⟨n, vs⟩ := x
    rcases vs with _ | ⟨a, _ | ⟨b, t⟩⟩ <;> simp [paramValue, Json.Value.plain]
  · intro x hx
    obtain ⟨hn, -⟩ := Params.mem_multimap.mp hx
    obtain ⟨e, he, hname⟩ := Params.mem_names.mp hn
    exact hname ▸ hP e he

/-! ### The parameters a property is written with -/

/-- The names writing adds to a property's parameters are object names. -/
theorem objectName_addedNames : ∀ n ∈ Codec.addedNames, ObjectName n := by
  decide

/-- The parameters a property is written with have object names when its own do. -/
theorem objectName_prepareParams {c : Codec} {prop : Property} (hp : ∀ e ∈ prop.params.entries, ObjectName e.1)
    (self : Option Nat) (v : Version) (card : Option Card) :
    ∀ e ∈ ((c.prepareParams prop self v card).erase "VALUE").entries, ObjectName e.1 := by
  intro e he
  rcases Codec.mem_prepareParams_added (Params.mem_erase he).1 with h | h
  · exact hp e h
  · exact objectName_addedNames _ h

/-! ### What writing puts down -/

open Vcf (Returns forIn_returns)

/-- A property as jCard writing puts it down: the property, its prepared
parameters without `VALUE`, the name of its data type and its values. -/
structure Written where
  prop : Property
  params : Params
  type : String
  values : List Json.Value

/-- The property array of a written property. -/
def Written.array (w : Written) : Json.Value :=
  .arr ([.str (Text.lower w.prop.name), .obj (paramObject w.params w.prop.group), .str w.type] ++ w.values)

/-- What writing puts down for a property of a card at a position: none when its
value is skipped or holds a card. -/
def written? (index : CodecIndex) (card : Card) (self : Nat) (prop : Property) : Option Written :=
  let codec := index.codecForProperty prop
  match (codec.writeJson prop.value .v40).run'.1 with
  | .ok (.written values) =>
    some ⟨prop, (codec.prepareParams prop (some self) .v40 (some card)).erase "VALUE",
      ((codec.dataType prop.value .v40).map (·.name)).getD "unknown", values.items⟩
  | _ => none

theorem returns_note (message : String) (property : Option String) : Returns (note message property) () :=
  fun _ => ⟨_, rfl⟩

/-- Writing a property whose value can be written gives its array, or nothing. -/
theorem propertyArray_returns (index : CodecIndex) (card : Card) (self : Nat) (prop : Property)
    (h : ∃ w, ((index.codecForProperty prop).writeJson prop.value .v40).run'.1 = .ok w) :
    Returns (propertyArray index card self prop) ((written? index card self prop).map Written.array) := by
  obtain ⟨w, hw⟩ := h
  unfold propertyArray written?
  dsimp only
  generalize hrun : ((index.codecForProperty prop).writeJson prop.value .v40).run' = wr at hw ⊢
  obtain ⟨result, messages⟩ := wr
  simp only at hw
  subst hw
  dsimp only
  -- the codec's messages become notes, which change nothing but the warnings
  have hnotes : Returns (forIn messages PUnit.unit fun m _ => do
      note m (some prop.name)
      pure (ForInStep.yield PUnit.unit) : EmitM PUnit) PUnit.unit :=
    forIn_returns (fun _ _ => PUnit.unit) (fun m _ _ => (returns_note _ _).bind_returns (Returns.pure _)) _
  -- a property of no 4.0 codec is noted first
  split
  all_goals
    first
    | refine (returns_note _ _).bind_returns ?_
    | skip
    refine hnotes.bind_returns ?_
    cases w with
    | written vals => exact Returns.pure _
    | skip why => exact (returns_note _ _).bind_returns (Returns.pure _)
    | embedded c => exact (returns_note _ _).bind_returns (Returns.pure _)

/-- The array jCard writes first in every card. -/
def versionEntry : Json.Value := .arr [.str "version", .obj [], .str "text", .str "4.0"]

/-- What writing puts down for the properties of a card, in order. -/
def writtenOf (index : CodecIndex) (card : Card) : List Written :=
  ((List.range card.properties.length).zip card.properties).filterMap fun x => written? index card x.1 x.2

theorem foldl_append_toList {α β : Type} (f : α → Option β) (xs : List α) (init : List β) :
    xs.foldl (fun acc x => acc ++ (f x).toList) init = init ++ xs.filterMap f := by
  induction xs generalizing init with
  | nil => simp
  | cons x xs ih =>
    rw [List.foldl_cons, ih, List.filterMap_cons]
    cases f x <;> simp

/-- The jCard of a card whose values can all be written: the version array and
then the array of each written property, in order. -/
def cardArrayOf (index : CodecIndex) (card : Card) : Json.Value :=
  .arr [.str "vcard", .arr (versionEntry :: (writtenOf index card).map Written.array)]

theorem cardArray_returns (index : CodecIndex) (card : Card)
    (h : ∀ p ∈ card.properties, ∃ w, ((index.codecForProperty p).writeJson p.value .v40).run'.1 = .ok w) :
    Returns (cardArray index card) (cardArrayOf index card) := by
  unfold cardArray cardArrayOf
  dsimp only
  refine (forIn_returns (fun acc x => acc ++ ((written? index card x.1 x.2).map Written.array).toList) ?_ _).bind_returns
    ?_
  · rintro ⟨i, p⟩ hx acc
    refine (propertyArray_returns index card i p (h p (List.of_mem_zip hx).2)).bind_returns ?_
    cases written? index card i p <;> simp only [Option.map_none, Option.map_some, Option.toList_none,
      Option.toList_some, List.append_nil] <;> exact Returns.pure _
  · have hprops : [versionEntry] ++ ((List.range card.properties.length).zip card.properties).filterMap
        (fun x => (written? index card x.1 x.2).map Written.array) =
          versionEntry :: (writtenOf index card).map Written.array := by
      simp [writtenOf, List.map_filterMap]
    rw [foldl_append_toList]
    split
    · exact (returns_note _ _).bind_returns (by rw [← hprops]; exact Returns.pure _)
    · rw [← hprops]
      exact Returns.pure _

/-- The document of the jCards of some cards: the one jCard of a single card, else
the array of them. -/
def documentOf (arrays : List Json.Value) : Json.Value :=
  if arrays.length = 1 then arrays.headD .null else .arr arrays

theorem mapM_returns {ε σ α β : Type} {f : α → ExceptT ε (StateM σ) β} {g : α → β} (xs : List α)
    (h : ∀ x ∈ xs, Returns (f x) (g x)) : Returns (xs.mapM f) (xs.map g) := by
  induction xs with
  | nil => exact Returns.pure _
  | cons x xs ih =>
    rw [List.mapM_cons, List.map_cons]
    exact (h x List.mem_cons_self).bind_returns
      ((ih fun y hy => h y (List.mem_cons_of_mem _ hy)).bind_returns (Returns.pure _))

/-- Writing cards whose values can all be written gives the compact text of
their jCards. -/
theorem write_eq (index : CodecIndex) (cards : List Card)
    (h : ∀ c ∈ cards, ∀ p ∈ c.properties, ∃ w, ((index.codecForProperty p).writeJson p.value .v40).run'.1 = .ok w) :
    ∃ ws, write index cards false = .ok (Json.compact (documentOf (cards.map (cardArrayOf index))), ws) := by
  obtain ⟨ws, hws⟩ := mapM_returns cards (fun c hc => cardArray_returns index c (h c hc)) []
  refine ⟨ws, ?_⟩
  unfold write
  rw [show (ExceptT.run (cards.mapM (cardArray index))).run [] = _ from hws]
  -- the document is the one jCard or the array of all of them
  rcases cards with _ | ⟨c, _ | ⟨c', cs⟩⟩ <;> simp [documentOf]

/-! ### The written document is JSON that reads back -/

open Vcf (Yields)
open Json (Textual)

theorem textual_paramValue (vs : List String) : Textual (paramValue vs) := by
  unfold paramValue
  split
  · exact .str _
  · refine .arr fun x hx => ?_
    obtain ⟨s, -, rfl⟩ := List.mem_map.mp hx
    exact .str s

/-- Setting a member keeps an object textual. -/
theorem textual_assocSet {fields : List (String × Json.Value)} (hf : Textual (.obj fields)) (k : String)
    {v : Json.Value} (hv : Textual v) : Textual (.obj (assocSet fields k v)) := by
  cases hf with
  | obj keys h =>
    refine .obj (nodup_keys_assocSet keys k v) fun f hf => ?_
    rcases mem_assocSet hf with rfl | ⟨hf, -⟩
    · exact hv
    · exact h f hf

/-- Every parameter object is textual: its members are set one name at a time. -/
theorem textual_paramObject (P : Params) (g : Option String) : Textual (.obj (paramObject P g)) := by
  have hfold : ∀ (L : List (String × List String)) acc, Textual (.obj acc) →
      Textual (.obj (L.foldl (fun acc x => assocSet acc (Text.lower x.1) (paramValue x.2)) acc)) := by
    intro L
    induction L with
    | nil => exact fun _ h => h
    | cons x L ih => exact fun acc h => ih _ (textual_assocSet h _ (textual_paramValue _))
  have hmembers := hfold P.multimap [] (.obj List.nodup_nil (by simp))
  cases g with
  | none => exact hmembers
  | some x =>
    rw [paramObject_some]
    split
    · exact hmembers
    · exact textual_assocSet hmembers _ (.str x)

/-- Values of textual items only. -/
def ValuesTextual (vs : Values) : Prop := ∀ x ∈ vs.items, Textual x

theorem valuesTextual_single (s : String) : ValuesTextual (.single (.str s)) := by
  simp only [ValuesTextual, Values.single, List.mem_singleton]
  rintro _ rfl
  exact .str s

theorem valuesTextual_texts (items : List String) : ValuesTextual (.texts items) := by
  simp only [ValuesTextual, Values.texts, List.mem_map]
  rintro _ ⟨s, -, rfl⟩
  exact .str s

theorem valuesTextual_structured (cs : List Text.Component) : ValuesTextual (.structured cs) := by
  simp only [ValuesTextual, Values.structured, List.mem_singleton]
  rintro _ rfl
  refine .arr fun x hx => ?_
  obtain ⟨c, -, rfl⟩ := List.mem_map.mp hx
  -- a component is one string, or an array of them
  rcases c with _ | s | (_ | ⟨a, _ | ⟨b, t⟩⟩)
  all_goals first
    | exact .str _
    | exact .arr fun y hy => by obtain ⟨s, -, rfl⟩ := List.mem_map.mp hy; exact .str s

/-- The texts a component of a structured value reads back as: none for an
absent one, a text alone unless it is empty, and the items of a list but the
empty ones. -/
def componentTexts : Text.Component → List String
  | .absent => []
  | .single s => if s.isEmpty then [] else [s]
  | .many xs => xs.filter (· != "")

/-- **A structured value reads back component by component**: collapsing a
list of one item to the item, and an empty list to an empty text, loses
nothing but the empty texts. -/
theorem asStructured_structured (cs : List Text.Component) :
    (Values.structured cs).asStructured = cs.map componentTexts := by
  simp only [Values.asStructured, Values.structured, List.map_map]
  refine List.map_congr_left fun c _ => ?_
  -- a list of one item is written as the item alone; a longer one as an array read item by item
  rcases c with _ | s | (_ | ⟨x, _ | ⟨y, t⟩⟩)
  · rfl
  · simp [componentTexts, scalarText]
  · rfl
  · by_cases hx : x = "" <;> simp [componentTexts, scalarText, hx]
  · simp [componentTexts, scalarText, Function.comp_def]

/-- Every value a codec writes to jCard is strings and arrays of them. -/
theorem writeJson_textual (c : Codec) (value : Value) (v : Version) : Yields (c.writeJson value v) ValuesTextual := by
  unfold Codec.writeJson
  dsimp only
  split
  all_goals
    repeat' split
    all_goals first
      | exact Yields.pure (valuesTextual_single _)
      | exact Yields.pure (valuesTextual_texts _)
      | exact Yields.pure (valuesTextual_structured _)
      | exact Yields.throw
      | exact Yields.seq fun _ => Yields.pure (valuesTextual_single _)

/-- A value that a writing ends with satisfies what every run of it yields. -/
theorem Yields.of_written {α : Type} {m : WriteM α} {P : α → Prop} (hm : Yields m P) {a : α}
    (h : m.run'.1 = .ok (.written a)) : P a := by
  unfold WriteM.run' at h
  rcases hrun : (ExceptT.run m).run [] with ⟨r, ws⟩
  rw [hrun] at h
  cases r with
  | ok b =>
    cases h
    exact hm [] a ws hrun
  | error e => cases e <;> cases h

/-- What a written property carries to the reader intact: a case-stable name
other than `VERSION`, parameters of object names and values of JSON text. -/
structure Written.Readable (w : Written) : Prop where
  name : CaseStable w.prop.name
  notVersion : w.prop.name ≠ "VERSION"
  params : ∀ e ∈ w.params.entries, ObjectName e.1
  values : ∀ x ∈ w.values, Textual x

theorem written?_spec {index : CodecIndex} {card : Card} {self : Nat} {prop : Property} {w : Written}
    (h : written? index card self prop = some w) :
    w.prop = prop ∧
      w.params = ((index.codecForProperty prop).prepareParams prop (some self) .v40 (some card)).erase "VALUE" ∧
      ∀ x ∈ w.values, Textual x := by
  unfold written? at h
  dsimp only at h
  split at h
  · next values hrun =>
    cases h
    exact ⟨rfl, rfl, Yields.of_written (writeJson_textual _ _ _) hrun⟩
  · cases h

theorem mem_writtenOf {index : CodecIndex} {card : Card} {w : Written} (h : w ∈ writtenOf index card) :
    w.prop ∈ card.properties ∧ (∃ self : Nat,
      w.params = ((index.codecForProperty w.prop).prepareParams w.prop (some self) .v40 (some card)).erase "VALUE") ∧
      ∀ x ∈ w.values, Textual x := by
  obtain ⟨⟨self, prop⟩, hx, hw⟩ := List.mem_filterMap.mp h
  obtain ⟨rfl, hparams, hvalues⟩ := written?_spec hw
  exact ⟨(List.of_mem_zip hx).2, ⟨self, hparams⟩, hvalues⟩

/-- What writing puts down for a card is readable when the card's property names
are case-stable and not `VERSION`, and its parameter names are object names. -/
theorem readable_of_mem_writtenOf {index : CodecIndex} {card : Card}
    (hnames : ∀ p ∈ card.properties, CaseStable p.name ∧ p.name ≠ "VERSION")
    (hparams : ∀ p ∈ card.properties, ∀ e ∈ p.params.entries, ObjectName e.1)
    {w : Written} (h : w ∈ writtenOf index card) : w.Readable := by
  obtain ⟨hprop, ⟨self, hw⟩, hvalues⟩ := mem_writtenOf h
  refine ⟨(hnames _ hprop).1, (hnames _ hprop).2, ?_, hvalues⟩
  rw [hw]
  exact objectName_prepareParams (hparams _ hprop) _ _ _

theorem textual_versionEntry : Textual versionEntry := by
  refine .arr fun x hx => ?_
  simp only [List.mem_cons, List.not_mem_nil, or_false] at hx
  rcases hx with rfl | rfl | rfl | rfl
  · exact .str _
  · exact .obj List.nodup_nil (by simp)
  · exact .str _
  · exact .str _

theorem Written.textual_array {w : Written} (hv : ∀ x ∈ w.values, Textual x) : Textual w.array := by
  refine .arr fun x hx => ?_
  simp only [List.cons_append, List.nil_append, List.mem_cons] at hx
  rcases hx with rfl | rfl | rfl | hx
  · exact .str _
  · exact textual_paramObject _ _
  · exact .str _
  · exact hv x hx

/-- Every jCard written is JSON that reads back as itself. -/
theorem textual_cardArrayOf (index : CodecIndex) (card : Card) : Textual (cardArrayOf index card) := by
  refine .arr fun x hx => ?_
  simp only [List.mem_cons, List.not_mem_nil, or_false] at hx
  rcases hx with rfl | rfl
  · exact .str _
  · refine .arr fun y hy => ?_
    rcases List.mem_cons.mp hy with rfl | hy
    · exact textual_versionEntry
    · obtain ⟨w, hw, rfl⟩ := List.mem_map.mp hy
      exact Written.textual_array (mem_writtenOf hw).2.2

theorem textual_documentOf {arrays : List Json.Value} (h : ∀ a ∈ arrays, Textual a) :
    Textual (documentOf arrays) := by
  unfold documentOf
  split
  · next hlen =>
    obtain ⟨a, rfl⟩ := List.length_eq_one_iff.mp hlen
    exact h a List.mem_cons_self
  · exact .arr h

/-! ### What reading the document gives -/

/-- The parameters a written property is read with: its own, regrouped by name. -/
def Written.readParams (w : Written) : Params := ⟨w.params.multimap.flatMap fun x => x.2.map fun v => (x.1, v)⟩

/-- Reads a written property into a card: its own name, its parameters
regrouped and its group, with the data type and values written. -/
def Written.read (index : CodecIndex) (w : Written) (st : Card × Session) : Card × Session :=
  readWithParams index w.prop.name w.readParams (readGroup w.prop.group) (.str w.type) w.values st

/-- Reads what writing put down for a card into a card of version 4.0. -/
def readWrittenCard (index : CodecIndex) (card : Card) (s : Session) : Card × Session :=
  (writtenOf index card).foldl (fun st w => w.read index st) ({ version := .v40 }, s)

theorem readProperty_written (index : CodecIndex) {w : Written} (hw : ∀ e ∈ w.params.entries, ObjectName e.1)
    (st : Card × Session) :
    readProperty index w.prop.name (.obj (paramObject w.params w.prop.group)) (.str w.type) w.values st =
      w.read index st := by
  unfold readProperty Written.read Written.readParams
  rw [readParameters_paramObject hw]

/-- A card's entries read one after the other: each written property array is
read as the property, and whether the version was seen stays as it is. -/
theorem foldl_writtenArrays (index : CodecIndex) {f : Card × Session × Bool → Json.Value → Card × Session × Bool}
    (ws : List Written)
    (hf : ∀ w ∈ ws, ∀ card s seen, f (card, s, seen) w.array = ((w.read index (card, s)).1, (w.read index (card, s)).2, seen))
    (card : Card) (s : Session) (seen : Bool) :
    (ws.map Written.array).foldl f (card, s, seen) =
      ((ws.foldl (fun st w => w.read index st) (card, s)).1, (ws.foldl (fun st w => w.read index st) (card, s)).2, seen) := by
  induction ws generalizing card s with
  | nil => rfl
  | cons w ws ih =>
    rw [List.map_cons, List.foldl_cons, hf w List.mem_cons_self, ih (fun w' hw' => hf w' (List.mem_cons_of_mem _ hw'))]
    rfl

/-- **A written jCard reads back as its written properties**, each under its own
name, with its parameters regrouped and its group, in a card of version 4.0,
with no warning about the version. -/
theorem readCard_cardArrayOf (index : CodecIndex) (card : Card)
    (hnames : ∀ p ∈ card.properties, CaseStable p.name ∧ p.name ≠ "VERSION")
    (hparams : ∀ p ∈ card.properties, ∀ e ∈ p.params.entries, ObjectName e.1) (s : Session) :
    readCard index (cardArrayOf index card) s = .ok (readWrittenCard index card s) := by
  have hversion : Text.upper "version" = "VERSION" := by decide
  unfold readCard cardArrayOf
  simp only [List.foldl_cons, versionEntry, Json.Value.plain, hversion, beq_self_eq_true, if_true]
  rw [foldl_writtenArrays index _ ?_]
  · rfl
  · -- every other entry is a written property, read under its own name
    intro w hw card' s' seen
    have hw := readable_of_mem_writtenOf hnames hparams hw
    have hname : Text.upper (Text.lower w.prop.name) = w.prop.name := hw.name.2
    have hne : (w.prop.name == "VERSION") = false := by simpa using hw.notVersion
    simp only [Written.array, List.cons_append, List.nil_append, hname, hne, readProperty_written index hw.params,
      Bool.false_eq_true, if_false]

/-- What reading back the jCards of some cards gives: each card's written
properties read into a card of version 4.0, one session carried through. -/
def readBack (index : CodecIndex) (types : DataType.Registry) (cards : List Card) : List Card × Session :=
  cards.foldl (fun acc c => (acc.1 ++ [(readWrittenCard index c acc.2).1], (readWrittenCard index c acc.2).2))
    ([], { types })

/-- The jCards of some cards read one after the other. -/
theorem foldlM_cardArrays (index : CodecIndex) {F : List Card × Session → Json.Value → Except Error (List Card × Session)}
    (cards : List Card)
    (hF : ∀ c ∈ cards, ∀ acc, F acc (cardArrayOf index c) =
      .ok (acc.1 ++ [(readWrittenCard index c acc.2).1], (readWrittenCard index c acc.2).2))
    (acc : List Card × Session) :
    (cards.map (cardArrayOf index)).foldlM F acc =
      .ok (cards.foldl (fun acc c => (acc.1 ++ [(readWrittenCard index c acc.2).1], (readWrittenCard index c acc.2).2))
        acc) := by
  induction cards generalizing acc with
  | nil => rfl
  | cons c cards ih =>
    rw [List.map_cons, List.foldlM_cons, hF c List.mem_cons_self, List.foldl_cons]
    exact ih (fun c' hc' => hF c' (List.mem_cons_of_mem _ hc')) _

/-- The document of one jCard is that jCard; of none or several, the array of
them, which does not start as a jCard does. -/
theorem documentOf_cardArrays (index : CodecIndex) (cards : List Card) :
    (∃ c, cards = [c] ∧ documentOf (cards.map (cardArrayOf index)) = cardArrayOf index c) ∨
      (documentOf (cards.map (cardArrayOf index)) = .arr (cards.map (cardArrayOf index)) ∧
        ∀ tail, cards.map (cardArrayOf index) ≠ .str "vcard" :: tail) := by
  rcases cards with _ | ⟨c, _ | ⟨c', cs⟩⟩
  · exact .inr ⟨rfl, by simp⟩
  · exact .inl ⟨c, rfl, rfl⟩
  · exact .inr ⟨rfl, by simp [cardArrayOf]⟩

theorem read_documentOf (index : CodecIndex) (types : DataType.Registry) (cards : List Card)
    (hnames : ∀ c ∈ cards, ∀ p ∈ c.properties, CaseStable p.name ∧ p.name ≠ "VERSION")
    (hparams : ∀ c ∈ cards, ∀ p ∈ c.properties, ∀ e ∈ p.params.entries, ObjectName e.1) :
    read index types (Json.compact (documentOf (cards.map (cardArrayOf index)))) = .ok (readBack index types cards) := by
  have htext : Textual (documentOf (cards.map (cardArrayOf index))) := by
    refine textual_documentOf fun a ha => ?_
    obtain ⟨c, -, rfl⟩ := List.mem_map.mp ha
    exact textual_cardArrayOf index c
  unfold read
  rw [Json.parseText_compact htext]
  dsimp only
  simp only [pure_bind]
  have hread := foldlM_cardArrays index (F := fun acc d => do
      let x ← readCard index d acc.2
      pure (acc.1 ++ [x.1], x.2)) cards
    (fun c hc acc => by rw [readCard_cardArrayOf index c (hnames c hc) (hparams c hc)]; rfl) ([], { types })
  -- whether the document is one jCard or an array of them, the jCards read are the cards' own
  split
  · next tail hdoc =>
    rcases documentOf_cardArrays index cards with ⟨c, rfl, hone⟩ | ⟨hmany, hhead⟩
    · rw [hone]
      exact hread
    · rw [hmany, Json.Value.arr.injEq] at hdoc
      exact absurd hdoc (hhead tail)
  · next items hitems hdoc =>
    rcases documentOf_cardArrays index cards with ⟨c, rfl, hone⟩ | ⟨hmany, -⟩
    · rw [hone, cardArrayOf, Json.Value.arr.injEq] at hdoc
      exact absurd hdoc.symm (hitems _)
    · rw [hmany, Json.Value.arr.injEq] at hdoc
      rw [← hdoc]
      exact hread
  · next _ hvcard harr =>
    rcases documentOf_cardArrays index cards with ⟨c, rfl, hone⟩ | ⟨hmany, -⟩
    · exact absurd (hone.trans rfl) (hvcard _)
    · exact absurd hmany (harr _)

/-! ### The cards read back -/

/-- `c'` is `c` with `added` at the end of its properties. -/
structure AddsProperties (c c' : Card) (added : List Property) : Prop where
  version : c'.version = c.version
  orphanedLabels : c'.orphanedLabels = c.orphanedLabels
  properties : c'.properties = c.properties ++ added

theorem AddsProperties.refl (c : Card) : AddsProperties c c [] := ⟨rfl, rfl, (List.append_nil _).symm⟩

theorem AddsProperties.trans {c c' c'' : Card} {a b : List Property} (h : AddsProperties c c' a)
    (h' : AddsProperties c' c'' b) : AddsProperties c c'' (a ++ b) :=
  ⟨h'.version.trans h.version, h'.orphanedLabels.trans h.orphanedLabels, by rw [h'.properties, h.properties,
    List.append_assoc]⟩

/-- Reading a property changes nothing of the card but adding at most one
property, under the name in capitals and the group it is read with. -/
theorem readWithParams_adds (index : CodecIndex) (name : String) (params : Params) (group : Option String)
    (rawType : Json.Value) (values : List Json.Value) (card : Card) (s : Session) :
    ∃ added : Option Property, AddsProperties card (readWithParams index name params group rawType values (card, s)).1
        added.toList ∧
      ∀ p ∈ added, p.name = Text.upper name ∧ p.group = group := by
  unfold readWithParams
  dsimp only
  -- a value, or raw text that could not be parsed, is added; anything else is dropped
  split
  · exact ⟨some _, ⟨rfl, rfl, rfl⟩, by simp [Property.make]⟩
  · exact ⟨none, AddsProperties.refl card, by simp⟩
  · exact ⟨some _, ⟨rfl, rfl, rfl⟩, by simp [Property.make]⟩
  · exact ⟨none, AddsProperties.refl card, by simp⟩

/-- A property read back from a written one: under its name and its group, an
empty group read as none. -/
def Written.ReadsAs (w : Written) (p : Property) : Prop := p.name = w.prop.name ∧ p.group = readGroup w.prop.group

/-- Reading written properties one after the other adds, in order, a property
for some of them, each under its own name and group. -/
theorem foldl_read_adds (index : CodecIndex) (ws : List Written) (hws : ∀ w ∈ ws, CaseStable w.prop.name)
    (card : Card) (s : Session) :
    ∃ sel added, sel.Sublist ws ∧ List.Forall₂ Written.ReadsAs sel added ∧
      AddsProperties card (ws.foldl (fun st w => w.read index st) (card, s)).1 added := by
  induction ws generalizing card s with
  | nil => exact ⟨[], [], .slnil, .nil, AddsProperties.refl card⟩
  | cons w ws ih =>
    obtain ⟨added, hadds, hadded⟩ :=
      readWithParams_adds index w.prop.name w.readParams (readGroup w.prop.group) (.str w.type) w.values card s
    obtain ⟨sel, rest, hsub, hall, hrest⟩ :=
      ih (fun w' hw' => hws w' (List.mem_cons_of_mem _ hw')) (w.read index (card, s)).1 (w.read index (card, s)).2
    rw [List.foldl_cons]
    cases added with
    | none => exact ⟨sel, rest, hsub.cons w, hall, hadds.trans hrest⟩
    | some p =>
      -- the property read is named in capitals, which a case-stable name already is
      have hp := hadded p rfl
      have hname : p.name = w.prop.name := hp.1.trans (hws w List.mem_cons_self).1
      exact ⟨w :: sel, p :: rest, hsub.cons_cons w, .cons ⟨hname, hp.2⟩ hall, hadds.trans hrest⟩

/-- What a card reads back as: a card of version 4.0 with no orphaned labels,
whose properties are, in order, some of the card's written properties, each
under its own name and group. -/
def ReadBackOf (index : CodecIndex) (card card' : Card) : Prop :=
  card'.version = .v40 ∧ card'.orphanedLabels = [] ∧
    ∃ sel, sel.Sublist (writtenOf index card) ∧ List.Forall₂ Written.ReadsAs sel card'.properties

theorem readWrittenCard_readBackOf (index : CodecIndex) (card : Card) (hnames : ∀ p ∈ card.properties, CaseStable p.name)
    (s : Session) : ReadBackOf index card (readWrittenCard index card s).1 := by
  obtain ⟨sel, added, hsub, hall, hadds⟩ := foldl_read_adds index (writtenOf index card)
    (fun w hw => hnames _ (mem_writtenOf hw).1) { version := .v40 } s
  refine ⟨hadds.version, hadds.orphanedLabels, sel, hsub, ?_⟩
  rw [readWrittenCard, hadds.properties]
  exact hall

/-- Reading back cards one after the other adds a card read back from each. -/
theorem foldl_readBack (index : CodecIndex) (cards : List Card)
    (h : ∀ c ∈ cards, ∀ s, ReadBackOf index c (readWrittenCard index c s).1) (acc : List Card × Session) :
    ∃ rest, (cards.foldl (fun acc c => (acc.1 ++ [(readWrittenCard index c acc.2).1], (readWrittenCard index c acc.2).2))
        acc).1 = acc.1 ++ rest ∧ List.Forall₂ (ReadBackOf index) cards rest := by
  induction cards generalizing acc with
  | nil => exact ⟨[], (List.append_nil _).symm, .nil⟩
  | cons c cards ih =>
    obtain ⟨rest, hrest, hall⟩ := ih (fun c' hc' => h c' (List.mem_cons_of_mem _ hc')) _
    refine ⟨(readWrittenCard index c acc.2).1 :: rest, ?_, .cons (h c List.mem_cons_self acc.2) hall⟩
    rw [List.foldl_cons, hrest, List.append_assoc, List.singleton_append]

theorem readBack_forall₂ (index : CodecIndex) (types : DataType.Registry) (cards : List Card)
    (hnames : ∀ c ∈ cards, ∀ p ∈ c.properties, CaseStable p.name) :
    List.Forall₂ (ReadBackOf index) cards (readBack index types cards).1 := by
  obtain ⟨rest, hrest, hall⟩ := foldl_readBack index cards
    (fun c hc s => readWrittenCard_readBackOf index c (hnames c hc) s) ([], { types })
  rw [readBack, hrest, List.nil_append]
  exact hall

/-- The parameters a readable property is read with are the parameters it was
written with. -/
theorem Written.Readable.readParams_sameAs {w : Written} (hw : w.Readable) : w.readParams.sameAs w.params = true := by
  have hkeyed : w.params.Keyed := fun e he => (hw.params e he).1.1
  have h := Params.sameAs_regroup hkeyed id
  simp only [id, List.map_id'] at h
  exact h
/-- A note in a group, with a type. -/
def groupedNoteCard : Card :=
  { version := .v40,
    properties := [{ group := some "WORK", name := "NOTE", params := ⟨[("TYPE", "HOME")]⟩, value := .text (some "a") }] }

/-- The parameter object of a note with the parameter `GROUP=x` and no group
reads back as the group `x` and no parameters. -/
example : readParameters (.obj (paramObject ⟨[("GROUP", "x")]⟩ none)) = ({}, some "x") := by decide +kernel

/-- A note of no group with a parameter named `GROUP`. -/
def groupParamNoteCard : Card :=
  { version := .v40, properties := [{ name := "NOTE", params := ⟨[("GROUP", "x")]⟩, value := .text (some "a") }] }

end JCard

end VCard
