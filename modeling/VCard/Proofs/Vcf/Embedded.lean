import VCard.Proofs.Vcf.Read
/-! Cards embedded in cards.

An `AGENT` property may hold a whole card, which may hold an `AGENT` of its own,
and so on: `Card.Reaches c k c'` says that `k` such links lead from `c` to `c'`.
A card read at depth `d` is `NestedWithin limit d` when every card `k ≥ 1`
links below it lies at depth `d + k ≤ limit`; `NestedWithin.of_children` and
`NestedWithin.child` take that apart one level at a time.

Reading changes a card by adding a property, by putting a card into the `AGENT`
at a position, and by giving addresses their labels; the lemmas here say which
embedded cards each change can add. A value read by a codec never holds a card
(`Codec.readText_no_card`): an embedded card comes only from the reader itself. -/
namespace VCard

/-- The card a value holds: that of an `AGENT` holding a whole card. -/
def Value.embeddedCard? : Value → Option Card
  | .agent (.card c) => some c
  | _ => none

namespace Card

/-- The cards a card's properties hold, in order. -/
def embedded (c : Card) : List Card := c.properties.filterMap (·.value.embeddedCard?)

/-- `c.Reaches k c'`: `k` links from a property to the card it holds lead from
`c` to `c'`. -/
inductive Reaches : Card → Nat → Card → Prop
  | refl (c : Card) : Reaches c 0 c
  | step {c child c' : Card} {k : Nat} : child ∈ c.embedded → Reaches child k c' → Reaches c (k + 1) c'

/-- A card read at depth `d` stays within depth `limit`: a card `k ≥ 1` links
below it lies at depth `d + k`, at most `limit`. -/
def NestedWithin (limit d : Int) (c : Card) : Prop :=
  ∀ k c', c.Reaches k c' → k = 0 ∨ d + k ≤ limit

section Nesting

variable {limit d : Int}

theorem NestedWithin.child {c child : Card} (h : c.NestedWithin limit d) (hc : child ∈ c.embedded) :
    d + 1 ≤ limit ∧ child.NestedWithin limit (d + 1) := by
  refine ⟨?_, fun k c' hr => ?_⟩
  · have := h 1 child (.step hc (.refl child))
    omega
  · have := h (k + 1) c' (.step hc hr)
    omega

theorem NestedWithin.of_children {c : Card}
    (h : ∀ child ∈ c.embedded, d + 1 ≤ limit ∧ child.NestedWithin limit (d + 1)) : c.NestedWithin limit d := by
  intro k c' hr
  cases hr with
  | refl => exact Or.inl rfl
  | step hc hr' =>
    obtain ⟨hd, hn⟩ := h _ hc
    have := hn _ _ hr'
    omega

/-- A card holding cards of a card within depth, and new cards within depth one
level below, is within depth. -/
theorem NestedWithin.of_embedded {c c' : Card} (h : c.NestedWithin limit d)
    (hsub : ∀ x ∈ c'.embedded, x ∈ c.embedded ∨ (d + 1 ≤ limit ∧ x.NestedWithin limit (d + 1))) :
    c'.NestedWithin limit d :=
  of_children fun x hx => (hsub x hx).elim h.child id

/-- A card that holds no card is within every depth. -/
theorem NestedWithin.of_embedded_nil {c : Card} (h : c.embedded = []) : c.NestedWithin limit d :=
  of_children fun x hx => by simp [h] at hx

/-- Within depth `limit` from the top, a card is at most `max limit 0` links
below. -/
theorem NestedWithin.reaches_le {c c' : Card} {k : Nat} (h : c.NestedWithin limit 0) (hr : c.Reaches k c') :
    k ≤ max limit 0 := by
  have := h k c' hr
  omega

end Nesting

/-! ### What reading changes -/

theorem embedded_add (c : Card) (p : Property) :
    (c.add p).embedded = c.embedded ++ p.value.embeddedCard?.toList := by
  simp only [embedded, add, List.filterMap_append, List.filterMap_cons, List.filterMap_nil]
  cases p.value.embeddedCard? <;> rfl

theorem mem_of_mem_modify {α : Type} {l : List α} {i : Nat} {f : α → α} {y : α} (hy : y ∈ l.modify i f) :
    y ∈ l ∨ ∃ a ∈ l, y = f a := by
  induction l generalizing i with
  | nil => simp at hy
  | cons a l ih =>
    cases i with
    | zero =>
      rw [List.modify_zero_cons, List.mem_cons] at hy
      rcases hy with rfl | hy
      · exact Or.inr ⟨a, List.mem_cons_self, rfl⟩
      · exact Or.inl (List.mem_cons_of_mem _ hy)
    | succ i =>
      rw [List.modify_succ_cons, List.mem_cons] at hy
      rcases hy with rfl | hy
      · exact Or.inl List.mem_cons_self
      · rcases ih hy with h | ⟨b, hb, rfl⟩
        · exact Or.inl (List.mem_cons_of_mem _ h)
        · exact Or.inr ⟨b, List.mem_cons_of_mem _ hb, rfl⟩

/-- Changing a property so that it holds the card it held, or a card of `R`,
adds only cards of `R`. -/
theorem mem_embedded_modify {R : Card → Prop} {c : Card} {i : Nat} {f : Property → Property} {x : Card}
    (hf : ∀ p, (f p).value.embeddedCard? = p.value.embeddedCard? ∨ ∀ y, (f p).value.embeddedCard? = some y → R y)
    (hx : x ∈ { c with properties := c.properties.modify i f }.embedded) : x ∈ c.embedded ∨ R x := by
  obtain ⟨q, hq, hqx⟩ := List.mem_filterMap.1 hx
  rcases mem_of_mem_modify hq with hq | ⟨p, hp, rfl⟩
  · exact Or.inl (List.mem_filterMap.2 ⟨q, hq, hqx⟩)
  · rcases hf p with h | h
    · exact Or.inl (List.mem_filterMap.2 ⟨p, hp, h ▸ hqx⟩)
    · exact Or.inr (h x hqx)

end Card

namespace Vcf

theorem embeddedCard_withLabel (p : Property) (label : String) :
    (withLabel p label).value.embeddedCard? = p.value.embeddedCard? := by
  unfold withLabel
  split
  · next h => rw [h]; rfl
  · rfl

/-- Labels attached to addresses bring no card. -/
theorem mem_embedded_assignLabels {c : Card} {labels : List (Property × Nat)} {x : Card}
    (hx : x ∈ (assignLabels c labels).embedded) : x ∈ c.embedded := by
  induction labels generalizing c with
  | nil => exact hx
  | cons l rest ih =>
    have hx' := ih hx
    split at hx'
    · have := Card.mem_embedded_modify (R := fun _ => False) (fun p => Or.inl (embeddedCard_withLabel p _)) hx'
      exact this.resolve_right id
    · exact hx'

end Vcf

/-! ### Codecs read no card -/

namespace Codec

open Vcf

theorem readBinary_no_card (textAllowed : Bool) (value : String) (dt : Option DataType) :
    Yields (readBinary textAllowed value dt) fun x => x.embeddedCard? = none := by
  unfold readBinary
  refine Yields.seq fun _ => Yields.seq fun _ => ?_
  split
  · exact Yields.seq fun _ => Yields.pure rfl
  split
  · exact Yields.pure rfl
  split
  · exact Yields.pure rfl
  split
  · dsimp only
    split
    · exact Yields.seq fun _ => Yields.seq fun _ => Yields.pure rfl
    · exact Yields.seq fun _ => Yields.pure rfl
  · split
    · exact Yields.seq fun _ => Yields.pure rfl
    · exact Yields.seq fun _ => Yields.seq fun _ => Yields.pure rfl

theorem readDateOrTime_no_card (value : String) (dt : Option DataType) :
    Yields (readDateOrTime value dt) fun x => x.embeddedCard? = none := by
  unfold readDateOrTime
  dsimp only
  split
  · exact Yields.pure rfl
  split
  · exact Yields.pure rfl
  refine Yields.seq fun _ => ?_
  split
  · refine Yields.seq fun _ => ?_
    split
    · exact Yields.pure rfl
    · exact Yields.seq fun _ => Yields.pure rfl
  · split
    · exact Yields.pure rfl
    · exact Yields.seq fun _ => Yields.pure rfl

theorem readGeo_no_card (value : String) : Yields (readGeo value) fun x => x.embeddedCard? = none := by
  unfold readGeo
  dsimp only
  split
  · exact Yields.seq fun _ => Yields.pure rfl
  split
  · exact Yields.seq fun _ => Yields.seq fun _ => Yields.seq fun _ => Yields.pure rfl
  · exact Yields.seq fun _ => Yields.seq fun _ => Yields.pure rfl

theorem readClientPidMap_no_card (pidPart uriPart : List String) :
    Yields (readClientPidMap pidPart uriPart) fun x => x.embeddedCard? = none := by
  unfold readClientPidMap
  dsimp only
  split
  · exact Yields.seq fun _ => Yields.pure rfl
  split <;> exact Yields.seq fun _ => Yields.pure rfl

/-- A codec reads no card: an `AGENT` codec reads a URL, or stops with the
text of the card for the reader to read. -/
theorem readText_no_card (c : Codec) (value : String) (dt : Option DataType) :
    Yields (c.readText value dt) fun x => x.embeddedCard? = none := by
  unfold readText
  refine Yields.seq fun v => ?_
  cases c.shape with
  | geo => exact readGeo_no_card value
  | binary t => exact readBinary_no_card t value dt
  | dateOrTime => exact readDateOrTime_no_card value dt
  | clientPidMap =>
    dsimp only
    split
    · exact readClientPidMap_no_card _ _
    · exact Yields.throw
  | xml =>
    dsimp only
    split
    · exact Yields.pure rfl
    · exact Yields.throw
  | address => exact Yields.seq fun _ => Yields.pure rfl
  | timestamp => exact Yields.seq fun _ => Yields.pure rfl
  | telephone =>
    dsimp only
    split
    · exact Yields.pure rfl
    · exact Yields.pure rfl
  | timezone =>
    dsimp only
    split
    · exact Yields.pure rfl
    split
    · exact Yields.pure rfl
    · exact Yields.seq fun _ => Yields.pure rfl
  | place =>
    dsimp only
    split
    · split
      · split
        · exact Yields.pure rfl
        · exact Yields.pure rfl
      · exact Yields.pure rfl
    · exact Yields.pure rfl
  | agent =>
    dsimp only
    split
    · exact Yields.pure rfl
    · exact Yields.throw
  | _ => exact Yields.pure rfl

end Codec

namespace Vcf

/-- A value a codec reads satisfies what every run of its reading yields. -/
theorem Yields.run'_value {m : VCard.ReadM Value} {P : Value → Prop} (h : Yields m P) {v : Version} {p : Params}
    {types : DataType.Registry} {x : Value} (hx : (m.run' v p types).reading = .value x) : P x := by
  unfold VCard.ReadM.run' at hx
  revert hx
  rcases hrun : (ExceptT.run m).run { version := v, params := p, types } with ⟨r, s'⟩
  cases r with
  | ok a =>
    intro hx
    cases hx
    exact h _ _ _ hrun
  | error e => cases e <;> intro hx <;> cases hx

end Vcf

end VCard
