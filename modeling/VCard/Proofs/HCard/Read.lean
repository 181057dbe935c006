import VCard.HCard.Read
/-! Which elements of a page an hCard is read from.

A page holds a forest of elements. An element lies *under* a set of classes'
reach when no element above it in the forest has the class (`reachable`): this
is said through `ancestry`, which lists every element with the elements above
it. The cards of a page are its elements of class `vcard` with no such element
above them (`outermostOf_eq_reachable`), in document order; a card's properties
are read from the elements below its root with no element of class `vcard`
between the root and them.

Reading a card is one fold over its *handovers* (`visitAll_eq_foldlM`): each
element it reads, once for every class name of it that has a codec, in
document order; `readProperty` reads one. Reading only ever adds warnings
after those already there (`Appends`), so each card of a page is read as if
it were alone; and it only ever adds properties after those already there, so a
card whose page has a base URL starts with its `SOURCE`. An element of classes
`agent` and `vcard` handed to the agent's codec adds one `AGENT` property whose
card is read from the element by the same rule one level deeper, or, past the
deepest level allowed, one warning and nothing else. -/
namespace VCard

namespace HCard

open Xml (Element)

/-! ### Elements and the elements above them -/

mutual
/-- An element and every element below it, in document order, each with the
elements above it from this one down, outermost first. -/
def ancestry : Element → List (List Element × Element)
  | e@⟨_, _, _, children, _⟩ => ([], e) :: (ancestryOf children).map fun x => (e :: x.1, x.2)

/-- `ancestry` of each of some elements in turn. -/
def ancestryOf : List Element → List (List Element × Element)
  | [] => []
  | c :: rest => ancestry c ++ ancestryOf rest
end

/-- Whether none of some elements has a class. -/
def noneOfClass (name : String) (above : List Element) : Bool := !above.any (hasClass · name)

/-- The elements of a forest, in document order, with no element of a class above them. -/
def reachable (name : String) (cs : List Element) : List Element :=
  ((ancestryOf cs).filter fun x => noneOfClass name x.1).map Prod.snd

mutual
theorem map_snd_ancestry : ∀ e : Element, (ancestry e).map Prod.snd = Element.descendants e
  | ⟨_, _, _, children, _⟩ => by
    rw [ancestry, Element.descendants, List.map_cons, List.map_map, ← map_snd_ancestryOf children]
    rfl

/-- `ancestryOf` lists the elements of a forest in document order. -/
theorem map_snd_ancestryOf : ∀ cs : List Element, (ancestryOf cs).map Prod.snd = Element.descendantsOf cs
  | [] => rfl
  | c :: rest => by
    rw [ancestryOf, Element.descendantsOf, List.map_append, map_snd_ancestry c, map_snd_ancestryOf rest]
end

theorem noneOfClass_cons (name : String) (c : Element) (above : List Element) :
    noneOfClass name (c :: above) = (!hasClass c name && noneOfClass name above) := by
  simp [noneOfClass]

/-- Below an element of the class nothing is reachable; below any other element,
what is reachable from it. -/
theorem filter_below (name : String) (c : Element) (xs : List (List Element × Element)) :
    ((xs.map fun x => (c :: x.1, x.2)).filter fun x => noneOfClass name x.1).map Prod.snd =
      if hasClass c name then [] else (xs.filter fun x => noneOfClass name x.1).map Prod.snd := by
  rw [List.filter_map]
  by_cases hc : hasClass c name <;> simp [Function.comp_def, noneOfClass_cons, hc]

/-- **What is reachable from a forest**, tree by tree: each root, then, unless the
root has the class, what is reachable from its children. -/
theorem reachable_cons (name : String) (c : Element) (rest : List Element) :
    reachable name (c :: rest) =
      c :: (if hasClass c name then [] else reachable name c.children) ++ reachable name rest := by
  obtain ⟨_, _, _, children, _⟩ := c
  simp only [reachable, ancestryOf, ancestry, List.filter_append, List.map_append]
  rw [List.filter_cons_of_pos (by rfl), List.map_cons, filter_below]

theorem reachable_nil (name : String) : reachable name [] = [] := rfl

mutual
theorem outermostBelow_eq_reachable (name : String) :
    ∀ e : Element, outermostBelow name e = (reachable name e.children).filter (hasClass · name)
  | ⟨_, _, _, children, _⟩ => by
    rw [outermostBelow]
    exact outermostOf_eq_reachable name children

/-- **The outermost elements of a class are those of the class with none of it
above them**, in document order. -/
theorem outermostOf_eq_reachable (name : String) :
    ∀ cs : List Element, outermostOf name cs = (reachable name cs).filter (hasClass · name)
  | [] => rfl
  | c :: rest => by
    rw [outermostOf, reachable_cons, List.cons_append, List.filter_cons, List.filter_append,
      outermostOf_eq_reachable name rest, outermostBelow_eq_reachable name c]
    by_cases hc : hasClass c name <;> simp [hc]
end

/-! ### Reading a card: one fold over its handovers -/

/-- An element with the codec of each of its class names that has one, in order. -/
def handoversOf (ix : CodecIndex) (e : Element) : List (Element × Codec) :=
  ((classNames e).filterMap ix.codecForHcard?).map (e, ·)

/-- The handovers of a card whose root has these children: each element with no
element of class `vcard` between the root and it, with the codec of each of its class
names that has one, in document order. -/
def handovers (ix : CodecIndex) (cs : List Element) : List (Element × Codec) :=
  (reachable "vcard" cs).flatMap (handoversOf ix)

/-- Reads one property of a card from an element with its codec. -/
def readProperty (r : Reader) (depth : Int) (e : Element) (pending : Pending) (codec : Codec) :
    ReadM Pending :=
  let result := (Codec.readHtml codec r.base e).run' .v30 {} {}
  let name := codec.name
  let noteWarnings : ReadM Unit := result.warnings.forM (warn · name)
  match result.reading with
  | .value x => do
    noteWarnings
    let p := Property.make name x result.params
    match x with
    | .label _ =>
      pure { pending with labels := pending.labels ++ [(p, (pending.card.propertiesNamed "ADR").length)] }
    | _ => pure { pending with card := pending.card.add p }
  | .skip why => do
    warn ("Property has requested that it be skipped: " ++ why) name
    pure pending
  | .cannotParse why => do
    warn ("Property value could not be parsed and is kept as raw text: " ++ why) name
    pure { pending with card := pending.card.add (Property.make name (.raw (value e) none) result.params) }
  | .embedded _ => do
    noteWarnings
    if depth + 1 > r.settings.maxEmbeddedDepth then
      warn (tooDeep r.settings.maxEmbeddedDepth) name
      pure pending
    else
      let inner ← visitAll r (depth + 1) e.children {}
      let child := Vcf.assignLabels inner.card inner.labels
      pure { pending with card := pending.card.add (Property.make name (.agent (.card child)) result.params) }

theorem handovers_cons (ix : CodecIndex) (c : Element) (rest : List Element) :
    handovers ix (c :: rest) = handovers ix [c] ++ handovers ix rest := by
  rw [handovers, handovers, handovers, reachable_cons, reachable_cons, reachable_nil, List.append_nil,
    List.cons_append, List.flatMap_cons, List.flatMap_append, List.flatMap_cons, List.append_assoc]

theorem handovers_singleton (ix : CodecIndex) (c : Element) :
    handovers ix [c] = handoversOf ix c ++ if hasClass c "vcard" then [] else handovers ix c.children := by
  rw [handovers, reachable_cons, reachable_nil, List.append_nil, List.flatMap_cons]
  split <;> rfl

section Fold
variable (r : Reader) (depth : Int)

/-- A handover read into a card. -/
def readHandover (pending : Pending) (x : Element × Codec) : ReadM Pending :=
  readProperty r depth x.1 pending x.2

theorem visit_eq (e : Element) (pending : Pending) :
    visit r depth e pending =
      (handoversOf r.index e).foldlM (readHandover r depth) pending >>= fun pending =>
        if hasClass e "vcard" then pure pending else visitAll r depth e.children pending := by
  obtain ⟨_, _, _, children, _⟩ := e
  rw [visit, handoversOf, hasClass, List.foldlM_map, List.foldlM_filterMap]
  -- left as a term, the class list is evaluated by every unification below
  generalize classNames _ = names
  congr 1
  congr 1
  funext pending className
  cases r.index.codecForHcard? className <;> rfl

mutual
theorem visit_eq_foldlM :
    ∀ (e : Element) (pending : Pending),
      visit r depth e pending = (handovers r.index [e]).foldlM (readHandover r depth) pending
  | ⟨name, attrs, text, children, tail⟩, pending => by
    rw [visit_eq, handovers_singleton, List.foldlM_append]
    refine bind_congr fun pending => ?_
    by_cases hc : hasClass ⟨name, attrs, text, children, tail⟩ "vcard"
    · rw [if_pos hc, if_pos hc]
      rfl
    · rw [if_neg hc, if_neg hc]
      exact visitAll_eq_foldlM children pending

/-- **Reading a card is one fold over its handovers**: every element below the root
with no element of class `vcard` between the root and it, in document order, handed
to the codec of each of its class names that has one, in order. -/
theorem visitAll_eq_foldlM :
    ∀ (cs : List Element) (pending : Pending),
      visitAll r depth cs pending = (handovers r.index cs).foldlM (readHandover r depth) pending
  | [], _ => rfl
  | c :: rest, pending => by
    rw [visitAll, handovers_cons, List.foldlM_append, visit_eq_foldlM c pending]
    refine bind_congr fun pending => ?_
    exact visitAll_eq_foldlM rest pending
end

end Fold

/-! ### Warnings only accumulate -/

/-- A reading that adds warnings after those already there and reads the same
whatever they are. -/
def Appends {α : Type} (m : ReadM α) : Prop :=
  ∀ w, m.run w = ((m.run []).1, w ++ (m.run []).2)

theorem appends_pure {α : Type} (a : α) : Appends (pure a : ReadM α) := by
  intro w
  show (a, w) = (a, w ++ [])
  rw [List.append_nil]

theorem Appends.bind {α β : Type} {m : ReadM α} {f : α → ReadM β} (hm : Appends m)
    (hf : ∀ a, Appends (f a)) : Appends (m >>= f) := by
  intro w
  have hw : (m >>= f).run w = (f (m.run []).1).run (w ++ (m.run []).2) := by
    rw [StateT.run_bind, hm w]
    rfl
  have hnil : (m >>= f).run [] = (f (m.run []).1).run (m.run []).2 := by
    rw [StateT.run_bind]
    rfl
  rw [hw, hnil, hf _ (w ++ _), hf _ (m.run []).2, List.append_assoc]

theorem appends_warn (message property : String) : Appends (warn message property) :=
  fun _ => rfl

theorem appends_forM {α : Type} {f : α → ReadM Unit} (hf : ∀ a, Appends (f a)) :
    ∀ xs : List α, Appends (xs.forM f)
  | [] => appends_pure _
  | x :: xs => (hf x).bind fun _ => appends_forM hf xs

theorem appends_foldlM {α β : Type} {f : β → α → ReadM β} {xs : List α}
    (hf : ∀ b, ∀ x ∈ xs, Appends (f b x)) (b : β) : Appends (xs.foldlM f b) := by
  induction xs generalizing b with
  | nil => exact appends_pure b
  | cons x xs ih =>
    rw [List.foldlM_cons]
    exact (hf b x List.mem_cons_self).bind fun b' =>
      ih (fun b y hy => hf b y (List.mem_cons_of_mem x hy)) b'

/-- A property is read with warnings only added, given that an embedded card is. -/
theorem appends_readProperty (r : Reader) (depth : Int) (e : Element) (pending : Pending) (codec : Codec)
    (hinner : Appends (visitAll r (depth + 1) e.children {})) :
    Appends (readProperty r depth e pending codec) := by
  have hnote : Appends (((Codec.readHtml codec r.base e).run' .v30 {} {}).warnings.forM (warn · codec.name)) :=
    appends_forM (fun _ => appends_warn _ _) _
  unfold readProperty
  dsimp only
  cases ((Codec.readHtml codec r.base e).run' .v30 {} {}).reading with
  | value x =>
    simp only
    exact hnote.bind fun _ => by split <;> exact appends_pure _
  | skip why | cannotParse why =>
    simp only
    exact (appends_warn _ _).bind fun _ => appends_pure _
  | embedded text =>
    simp only
    refine hnote.bind fun _ => ?_
    split
    · exact (appends_warn _ _).bind fun _ => appends_pure _
    · exact hinner.bind fun _ => appends_pure _

theorem fst_of_mem_handoversOf {ix : CodecIndex} {e : Element} {x : Element × Codec}
    (hx : x ∈ handoversOf ix e) : x.1 = e := by
  obtain ⟨c, _, rfl⟩ := List.mem_map.mp hx
  rfl

mutual
theorem appends_visit (r : Reader) :
    ∀ (e : Element) (depth : Int) (pending : Pending), Appends (visit r depth e pending)
  | ⟨name, attrs, text, children, tail⟩, depth, pending => by
    rw [visit_eq]
    refine (appends_foldlM (fun p x hx => ?_) pending).bind fun p => ?_
    · -- every handover of the element reads the element itself
      obtain ⟨e, codec⟩ := x
      obtain rfl : e = ⟨name, attrs, text, children, tail⟩ := fst_of_mem_handoversOf hx
      exact appends_readProperty r depth _ p codec (appends_visitAll r children (depth + 1) {})
    · split
      · exact appends_pure p
      · exact appends_visitAll r children depth p

theorem appends_visitAll (r : Reader) :
    ∀ (cs : List Element) (depth : Int) (pending : Pending), Appends (visitAll r depth cs pending)
  | [], _, pending => appends_pure pending
  | c :: rest, depth, pending => by
    rw [visitAll]
    exact (appends_visit r c depth pending).bind fun p => appends_visitAll r rest depth p
end

theorem appends_readCard (r : Reader) (e : Element) : Appends (readCard r e) :=
  (appends_visitAll r e.children 0 _).bind fun _ => appends_pure _

/-- The cards read by a reading that appends warnings: each as if read alone. -/
theorem run_mapM_fst {α β : Type} {f : α → ReadM β} (hf : ∀ a, Appends (f a)) :
    ∀ (xs : List α) (w : List Warning), ((xs.mapM f).run w).1 = xs.map fun x => ((f x).run []).1
  | [], _ => rfl
  | x :: xs, w => by
    rw [List.mapM_cons, StateT.run_bind, hf x w]
    show ((f x).run []).1 :: ((xs.mapM f).run (w ++ ((f x).run []).2)).1 = _
    rw [run_mapM_fst hf xs]
    rfl

/-- The card of an outermost element of class `vcard`, read on its own. -/
def cardOf (r : Reader) (e : Element) : Card := ((readCard r e).run []).1

/-- **A page gives one card for each of its outermost elements of class `vcard`**, in
document order, each read as if it were alone on the page. -/
theorem read_fst (r : Reader) (html : String) :
    (read r html).1 = (outermostCards (Html.parse html)).map (cardOf r) :=
  run_mapM_fst (appends_readCard r) _ []

/-! ### Properties only accumulate -/

end HCard

namespace Vcf

theorem withLabel_of_not_address {p : Property} (hp : ∀ a, p.value ≠ .address a) (label : String) :
    withLabel p label = p := by
  unfold withLabel
  split
  · next a h => exact absurd h (hp a)
  · rfl

/-- Attaching labels keeps every property that is not an address where it is. -/
theorem assignLabels_getElem? {c : Card} {i : Nat} {p : Property} (hi : c.properties[i]? = some p)
    (hp : ∀ a, p.value ≠ .address a) (labels : List (Property × Nat)) :
    (assignLabels c labels).properties[i]? = some p := by
  induction labels generalizing c with
  | nil => exact hi
  | cons l rest ih =>
    simp only [assignLabels]
    split
    · next j _ =>
      apply ih
      rw [List.getElem?_modify, hi]
      by_cases hj : j = i
      · simp [hj, withLabel_of_not_address hp]
      · simp [hj]
    · exact ih hi
end Vcf

namespace HCard

open Xml (Element)

/-- A reading that keeps, at the front, the properties a card had first. -/
def Keeps (pending : Pending) (m : ReadM Pending) : Prop :=
  ∀ w, pending.card.properties <+: ((m.run w).1).card.properties

theorem keeps_pure {p q : Pending} (h : p.card.properties <+: q.card.properties) : Keeps p (pure q) :=
  fun _ => h

theorem keeps_bind {α : Type} {p : Pending} (m : ReadM α) {g : α → ReadM Pending}
    (hg : ∀ a, Keeps p (g a)) : Keeps p (m >>= g) := by
  intro w
  rw [StateT.run_bind]
  exact hg _ _

theorem Keeps.bind {p : Pending} {m : ReadM Pending} {g : Pending → ReadM Pending} (hm : Keeps p m)
    (hg : ∀ q, Keeps q (g q)) : Keeps p (m >>= g) := by
  intro w
  rw [StateT.run_bind]
  exact (hm w).trans (hg _ _)

theorem keeps_foldlM {α : Type} {f : Pending → α → ReadM Pending} (hf : ∀ q x, Keeps q (f q x)) :
    ∀ (xs : List α) (p : Pending), Keeps p (xs.foldlM f p)
  | [], p => keeps_pure (List.prefix_refl _)
  | x :: xs, p => by
    rw [List.foldlM_cons]
    exact (hf p x).bind fun q => keeps_foldlM hf xs q

theorem keeps_readProperty (r : Reader) (depth : Int) (e : Element) (pending : Pending) (codec : Codec) :
    Keeps pending (readProperty r depth e pending codec) := by
  unfold readProperty
  dsimp only
  cases ((Codec.readHtml codec r.base e).run' .v30 {} {}).reading with
  | value x =>
    simp only
    refine keeps_bind _ fun _ => ?_
    split
    · exact keeps_pure (List.prefix_refl _)
    · exact keeps_pure (List.prefix_append _ _)
  | skip why =>
    simp only
    exact keeps_bind _ fun _ => keeps_pure (List.prefix_refl _)
  | cannotParse why =>
    simp only
    exact keeps_bind _ fun _ => keeps_pure (List.prefix_append _ _)
  | embedded text =>
    simp only
    refine keeps_bind _ fun _ => ?_
    split
    · exact keeps_bind _ fun _ => keeps_pure (List.prefix_refl _)
    · exact keeps_bind _ fun _ => keeps_pure (List.prefix_append _ _)

theorem keeps_visitAll (r : Reader) (depth : Int) (cs : List Element) (pending : Pending) :
    Keeps pending (visitAll r depth cs pending) := by
  rw [visitAll_eq_foldlM]
  exact keeps_foldlM (fun q (x : Element × Codec) => keeps_readProperty r depth x.1 q x.2) _ pending

/-- **A card of a page with a base URL starts with its `SOURCE`.** -/
theorem cardOf_source (r : Reader) {b : String} (hb : r.base = some b) (hne : b ≠ "") (e : Element) :
    (cardOf r e).properties.head? = some (Property.make "SOURCE" (.text (some b))) := by
  have hempty : b.isEmpty = false := by simpa [String.isEmpty_iff] using hne
  unfold cardOf readCard
  simp only [hb, hempty, Bool.false_eq_true, if_false]
  -- the card is read from one that holds `SOURCE` alone, and keeps it at the front
  obtain ⟨rest, hrest⟩ := keeps_visitAll r 0 e.children
    { card := ({ version := .v30 } : Card).add (Property.make "SOURCE" (.text (some b))) } []
  rw [StateT.run_bind]
  show (Vcf.assignLabels _ _).properties.head? = _
  rw [List.head?_eq_getElem?]
  refine Vcf.assignLabels_getElem? ?_ (fun _ h => Value.noConfusion h) _
  rw [← hrest]
  rfl

/-! ### An element that is itself an hCard, handed to the agent's codec -/

theorem readHtml_agent_of_card {c : Codec} (hc : c.shape = .agent) (base : Option String) {e : Element}
    (he : hasClass e "vcard" = true) : Codec.readHtml c base e = throw (.embedded none) := by
  unfold Codec.readHtml
  rw [hc]
  simp [he]

theorem readProperty_agent (r : Reader) (depth : Int) {e : Element} (pending : Pending) {c : Codec}
    (hc : c.shape = .agent) (he : hasClass e "vcard" = true) (w : List Warning) :
    (readProperty r depth e pending c).run w =
      if depth + 1 > r.settings.maxEmbeddedDepth then
        (pending, w ++ [{ message := tooDeep r.settings.maxEmbeddedDepth, property := some c.name }])
      else
        let inner := (visitAll r (depth + 1) e.children {}).run w
        ({ pending with
            card := pending.card.add
              (Property.make c.name (.agent (.card (Vcf.assignLabels inner.1.card inner.1.labels)))) },
          inner.2) := by
  have hread : (Codec.readHtml c r.base e).run' .v30 {} {} = ⟨.embedded none, {}, {}, []⟩ := by
    rw [readHtml_agent_of_card hc r.base he]
    rfl
  unfold readProperty
  rw [hread]
  -- what is left runs in the identity monad, where both sides compute alike
  by_cases hd : depth + 1 > r.settings.maxEmbeddedDepth
  · simp only [hd, if_true]
    rfl
  · simp only [hd, if_false]
    rfl

theorem agent_codec : defaultIndex.codecForHcard? "agent" = some ⟨"AGENT", .agent, false⟩ := by
  decide +kernel

/-! ### Reading a page -/

/-- **How a page is read as hCards.** With the built-in codecs, any base URL and any
settings: a page gives one card for each of its elements of class `vcard` with no
such element above it, in document order, each read as if it were alone; a card is
read, at any depth, as one fold over its handovers (every element below its root with
no element of class `vcard` between the root and it, in document order, once for each
of its class names that has a codec); with a base URL that is not empty every card
starts with its `SOURCE`; and class `agent` names the `AGENT` codec, which, handed an
element that is itself an hCard, adds one `AGENT` property whose card is read from the
element's children by the same rule one level deeper, or, past the deepest level
allowed, one warning and nothing else. An element that names `agent` twice is handed
to it twice. -/
theorem hcard_reading (base : Option String) (settings : Settings) :
    let r : Reader := { base, settings }
    (∀ html, (read r html).1 =
      ((reachable "vcard" (Html.parse html).children).filter (hasClass · "vcard")).map (cardOf r)) ∧
    (∀ depth cs pending,
      visitAll r depth cs pending = (handovers r.index cs).foldlM (readHandover r depth) pending) ∧
    (∀ b, base = some b → b ≠ "" → ∀ e,
      (cardOf r e).properties.head? = some (Property.make "SOURCE" (.text (some b)))) ∧
    ∃ c, r.index.codecForHcard? "agent" = some c ∧ c.name = "AGENT" ∧
      ∀ depth e pending w, hasClass e "vcard" = true →
        (readProperty r depth e pending c).run w =
          if depth + 1 > settings.maxEmbeddedDepth then
            (pending, w ++ [{ message := tooDeep settings.maxEmbeddedDepth, property := some "AGENT" }])
          else
            let inner := (visitAll r (depth + 1) e.children {}).run w
            ({ pending with
                card := pending.card.add
                  (Property.make "AGENT" (.agent (.card (Vcf.assignLabels inner.1.card inner.1.labels)))) },
              inner.2) := by
  intro r
  refine ⟨fun html => ?_, visitAll_eq_foldlM r, fun b hb hne e => cardOf_source r hb hne e,
    ⟨"AGENT", .agent, false⟩, agent_codec, rfl, fun depth e pending w he => ?_⟩
  · rw [read_fst, outermostCards, outermostBelow_eq_reachable]
  · exact readProperty_agent r depth pending rfl he w

/-- Two pages read otherwise than a base URL giving every card its `SOURCE`, and an
element of classes `agent` and `vcard` giving one `AGENT`, would have it: an empty base
URL gives no `SOURCE`, and an element that names `agent` twice gives two `AGENT`
properties. -/
theorem emptyBase_repeatedAgent_read :
    ((read { base := some "" } "<div class=\"vcard\"><span class=\"fn\">A</span></div>").1.map
        fun c => c.properties.map (·.name)) = [["FN"]] ∧
      ((read {} ("<div class=\"vcard\"><span class=\"fn\">A</span>" ++
          "<div class=\"agent AGENT vcard\"><span class=\"fn\">B</span></div></div>")).1.map
        fun c => (c.propertiesNamed "AGENT").length) = [2] :=
  ⟨by decide +kernel, by decide +kernel⟩

end VCard.HCard
