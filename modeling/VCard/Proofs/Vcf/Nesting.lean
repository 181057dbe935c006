import VCard.Proofs.Vcf.Step
/-! How deep embedded cards lie.

A card embedded in an `AGENT` is read either from nested `BEGIN:VCARD` …
`END:VCARD` lines, as a frame one level above the card around it, or from the
`AGENT`'s escaped text, by `readEmbedded` one level deeper; either way may
contain the other. Both check the depth against `Settings.maxEmbeddedDepth`: a
nested frame deeper than the limit is dropped at its end, together with every
frame opened inside it, and `readEmbedded` reads no card deeper than the limit.

`StackWithin` is what every line keeps (`lineStep_within`): each frame is one
level above the frame below it, a frame that is kept lies within the limit, and
each frame's card holds cards only down to the limit. With `readNext_invariant`
every card `readNext` gives is within the limit, for an embedded reader within
it; `readEmbedded_within` closes the loop by induction on its fuel, and
`read_within` is the result for whole texts.

A nested card that no `AGENT` waits for is read and dropped: from its
`BEGIN:VCARD` on, reading goes on as it would from the frame below, unchanged,
on the lines after the nested card (`readNext_dropped`). -/
namespace VCard.Vcf

open ContentLine

/-! ### Within the depth limit -/

/-- A frame stack read from depth `base` within depth `limit`. -/
inductive StackWithin (limit base : Int) : List Frame → Prop
  | empty : StackWithin limit base []
  | bottom {f : Frame} : f.depth = base → f.card.NestedWithin limit f.depth → StackWithin limit base [f]
  | nested {f g : Frame} {rest : List Frame} : f.card.NestedWithin limit f.depth → f.depth = g.depth + 1 →
      (f.discard = false → f.depth ≤ limit) → StackWithin limit base (g :: rest) →
      StackWithin limit base (f :: g :: rest)

/-- An embedded reader within depth `limit`: a card it reads at depth `d` lies
within the limit, and so do the cards it holds. -/
def EmbeddedWithin (limit : Int) (embedded : EmbeddedReader) : Prop :=
  ∀ t d name line, Yields (embedded t d name line) fun r => ∀ c ∈ r, d ≤ limit ∧ c.NestedWithin limit d

section Stack

variable {limit base : Int}

theorem StackWithin.top {f : Frame} {rest : List Frame} (h : StackWithin limit base (f :: rest)) :
    f.card.NestedWithin limit f.depth := by
  cases h with
  | bottom _ hf => exact hf
  | nested hf _ _ _ => exact hf

/-- The frame on top may change its card, within depth, and nothing else that
the stack depends on. -/
theorem StackWithin.replace_top {f f' : Frame} {rest : List Frame} (h : StackWithin limit base (f :: rest))
    (hd : f'.depth = f.depth) (hdisc : f'.discard = f.discard) (hn : f'.card.NestedWithin limit f'.depth) :
    StackWithin limit base (f' :: rest) := by
  cases h with
  | bottom hb _ => exact .bottom (hd.trans hb) hn
  | nested _ hg hk hrest => exact .nested hn (hd.trans hg) (fun h => hd ▸ hk (hdisc ▸ h)) hrest

end Stack

section Lines

variable (index : CodecIndex) (settings : Settings) (embedded : EmbeddedReader) (depth : Int)

/-- **Step lemma.** Every line keeps the stack within the limit and gives only
cards within it. -/
theorem lineStep_within (hemb : EmbeddedWithin settings.maxEmbeddedDepth embedded) (l : LogicalLine)
    (stack : List Frame) (hs : StackWithin settings.maxEmbeddedDepth depth stack) :
    Yields (lineStep index settings embedded depth l stack) fun r =>
      StackWithin settings.maxEmbeddedDepth depth r.2 ∧ ∀ c ∈ r.1, c.NestedWithin settings.maxEmbeddedDepth depth := by
  unfold lineStep
  split
  · dsimp only
    exact Yields.ite_pure _ _ ⟨hs, forall_mem_none⟩
  dsimp only
  split
  · -- `BEGIN:VCARD` opens a frame that holds no card yet
    split
    · refine Yields.bind (Q := StackWithin settings.maxEmbeddedDepth depth) ?_ fun s hs' =>
        Yields.pure ⟨hs', forall_mem_none⟩
      cases stack with
      | nil => exact Yields.pure (.bottom rfl (Card.NestedWithin.of_embedded_nil rfl))
      | cons parent rest =>
        refine (begin_cons settings depth parent rest l.number).mono fun s ⟨f, hst, hd, hnil, hkept⟩ => ?_
        exact hst ▸ .nested (Card.NestedWithin.of_embedded_nil hnil) hd (fun h => (hkept h).2.2) hs
    · exact Yields.pure ⟨hs, forall_mem_none⟩
  split
  · -- `END:VCARD` closes the frame on top
    split
    · exact Yields.pure ⟨hs, forall_mem_none⟩
    next hopen =>
    cases hs with
    | empty => simp at hopen
    | bottom hb hf =>
      refine (end_single _ l.number).mono fun r hr => ⟨hr ▸ .empty, fun c hc => ?_⟩
      rw [hr] at hc
      cases hc
      exact hb ▸ hf.of_embedded fun x hx => Or.inl (mem_embedded_assignLabels hx)
    | @nested f g others hf hfg hkept hrest =>
      refine (end_cons_cons f g others l.number).mono fun r ⟨hnone, card, hr, hdisc, hsub⟩ => ?_
      refine ⟨hr ▸ hrest.replace_top rfl rfl (hrest.top.of_embedded fun x hx => ?_), fun c hc => by simp [hnone] at hc⟩
      rcases hsub x hx with h | rfl
      · exact Or.inl h
      · -- the card of a frame goes below only when the frame is kept, so within the limit
        cases hfd : f.discard
        · refine Or.inr ⟨by have := hkept hfd; omega, ?_⟩
          rw [← hfg]
          exact hf.of_embedded fun y hy => Or.inl (mem_embedded_assignLabels hy)
        · exact Or.inl (hdisc hfd ▸ hx)
  · -- any other line changes the frame on top
    cases stack with
    | nil => exact Yields.pure ⟨.empty, forall_mem_none⟩
    | cons frame others =>
      dsimp only
      split
      · split
        · exact Yields.pure ⟨hs.replace_top rfl rfl (hs.top.of_embedded fun x hx => Or.inl hx), forall_mem_none⟩
        · exact Yields.seq fun _ => Yields.pure ⟨hs, forall_mem_none⟩
      · refine Yields.bind (readProperty_spec index settings embedded frame _ l.number
          (Q := fun x => frame.depth + 1 ≤ settings.maxEmbeddedDepth ∧ x.NestedWithin settings.maxEmbeddedDepth (frame.depth + 1))
          fun t name line => hemb t _ name line) fun f' ⟨hd, hdisc, hsub⟩ => Yields.pure ⟨?_, forall_mem_none⟩
        refine hs.replace_top hd hdisc ?_
        rw [hd]
        exact hs.top.of_embedded hsub

theorem readNext_within (hemb : EmbeddedWithin settings.maxEmbeddedDepth embedded) (lines : List LogicalLine)
    (stack : List Frame) (last : Nat) (hs : StackWithin settings.maxEmbeddedDepth depth stack) :
    Yields (readNext index settings embedded depth lines stack last) fun r =>
      ∀ c ∈ r.1, c.NestedWithin settings.maxEmbeddedDepth depth :=
  readNext_invariant index settings embedded depth (lineStep_within index settings embedded depth hemb) lines stack
    last hs

end Lines

/-- The embedded reader reads cards within the limit, whatever its fuel. -/
theorem readEmbedded_within (index : CodecIndex) (settings : Settings) (fuel : Nat) :
    EmbeddedWithin settings.maxEmbeddedDepth (readEmbedded index settings fuel) := by
  induction fuel with
  | zero => exact fun _ _ _ _ => Yields.pure forall_mem_none
  | succ fuel ih =>
    intro t d name line
    unfold readEmbedded
    split
    · exact Yields.seq fun _ => Yields.pure forall_mem_none
    next hdeep =>
    refine Yields.seq fun outer => ?_
    extract_lets reading
    have hread : Yields reading fun r => ∀ c ∈ r.1, c.NestedWithin settings.maxEmbeddedDepth d :=
      readNext_within index settings _ d ih (logicalLines t) [] 0 .empty
    rcases hrun : StateT.run (ExceptT.run reading) { types := outer.types } with ⟨r, inner⟩
    dsimp only
    -- the warnings of the embedded text go around the card it gave, if any
    split
    · simp only [pure_bind]
      exact Yields.seq fun _ => Yields.ite_pure _ _ fun c hc => ⟨by omega, hread _ _ _ hrun c hc⟩
    · simp only [pure_bind]
      exact Yields.seq fun _ => Yields.ite_pure _ _ forall_mem_none
    · exact Yields.bind (Q := fun _ => False) Yields.throw fun _ h => h.elim

theorem readCards_within (index : CodecIndex) (settings : Settings) (embedded : EmbeddedReader)
    (hemb : EmbeddedWithin settings.maxEmbeddedDepth embedded) (fuel : Nat) (lines : List LogicalLine) :
    Yields (readCards index settings embedded fuel lines) fun cards =>
      ∀ c ∈ cards, c.NestedWithin settings.maxEmbeddedDepth 0 := by
  induction fuel generalizing lines with
  | zero => exact Yields.pure fun c hc => (List.not_mem_nil hc).elim
  | succ fuel ih =>
    rw [readCards]
    refine Yields.bind (readNext_within index settings embedded 0 hemb lines [] 0 .empty) fun r hr => ?_
    split
    · next c rest =>
      refine Yields.bind (ih rest) fun cards hcards => Yields.pure ?_
      exact List.forall_mem_cons.2 ⟨hr c rfl, hcards⟩
    · exact Yields.pure fun c hc => (List.not_mem_nil hc).elim

/-- Every card read from a text is within the depth limit. -/
theorem read_within (index : CodecIndex) (settings : Settings) (text : String) :
    Yields (read index settings text) fun cards => ∀ c ∈ cards, c.NestedWithin settings.maxEmbeddedDepth 0 :=
  readCards_within index settings _ (readEmbedded_within index settings _) _ _

/-! ### Nested cards that are dropped -/

/-- Frames that are dropped when they end, on top of the frames `below`. -/
def DroppedOver (below stack : List Frame) : Prop :=
  ∃ above, above ≠ [] ∧ (∀ f ∈ above, f.discard = true) ∧ stack = above ++ below

section Dropped

variable (index : CodecIndex) (settings : Settings) (embedded : EmbeddedReader) (depth : Int)

/-- **Step lemma.** A line read above dropped frames leaves the frame `parent`
below them as it was: it keeps dropped frames above it, or ends the last of
them, which only clears the `AGENT` that `parent` waited with. -/
theorem lineStep_dropped {parent : Frame} {others stack : List Frame} (h : DroppedOver (parent :: others) stack)
    (l : LogicalLine) :
    Yields (lineStep index settings embedded depth l stack) fun r =>
      r.1 = none ∧ (DroppedOver (parent :: others) r.2 ∨ r.2 = { parent with pendingAgent := none } :: others) := by
  obtain ⟨above, hne, hdrop, rfl⟩ := h
  obtain ⟨f, above', rfl⟩ := List.exists_cons_of_ne_nil hne
  have hf : f.discard = true := hdrop f List.mem_cons_self
  have habove : ∀ x ∈ above', x.discard = true := fun x hx => hdrop x (List.mem_cons_of_mem _ hx)
  have hkeep : ∀ f' rest, f'.discard = true → (∀ x ∈ rest, x.discard = true) →
      DroppedOver (parent :: others) (f' :: (rest ++ parent :: others)) :=
    fun f' rest hf' hrest => ⟨f' :: rest, List.cons_ne_nil _ _, List.forall_mem_cons.2 ⟨hf', hrest⟩, rfl⟩
  rw [List.cons_append]
  unfold lineStep
  split
  · dsimp only
    exact Yields.ite_pure _ _ ⟨rfl, Or.inl (hkeep f above' hf habove)⟩
  dsimp only
  split
  · split
    · -- a frame opened above a dropped one is dropped
      refine Yields.bind (Q := DroppedOver (parent :: others)) ?_ fun s hs => Yields.pure ⟨rfl, Or.inl hs⟩
      refine (begin_cons settings depth f _ l.number).mono fun s ⟨g, hs, _, _, hkept⟩ => hs ▸ ?_
      refine hkeep g (f :: above') ?_ (List.forall_mem_cons.2 ⟨hf, habove⟩)
      cases hg : g.discard
      · simp [hf, hg] at hkept
      · rfl
    · exact Yields.pure ⟨rfl, Or.inl (hkeep f above' hf habove)⟩
  split
  · split
    · exact Yields.pure ⟨rfl, Or.inl (hkeep f above' hf habove)⟩
    · -- the frame on top ends, and hands nothing down
      cases above' with
      | nil =>
        refine (end_cons_cons f parent others l.number).mono fun r ⟨hnone, card, hr, hdisc, _⟩ =>
          ⟨hnone, Or.inr ?_⟩
        rw [hr, hdisc hf]
      | cons g above'' =>
        refine (end_cons_cons f g _ l.number).mono fun r ⟨hnone, card, hr, _, _⟩ => ⟨hnone, Or.inl ?_⟩
        rw [hr]
        exact hkeep _ above'' (habove g List.mem_cons_self) fun x hx => habove x (List.mem_cons_of_mem _ hx)
  · -- the frame on top changes, and stays dropped
    split
    · split
      · exact Yields.pure ⟨rfl, Or.inl (hkeep _ above' hf habove)⟩
      · exact Yields.seq fun _ => Yields.pure ⟨rfl, Or.inl (hkeep f above' hf habove)⟩
    · refine Yields.bind (readProperty_spec index settings embedded f _ l.number (Q := fun _ => True)
        fun _ _ _ _ _ _ _ _ _ => trivial) fun f' ⟨_, hdisc, _⟩ =>
          Yields.pure ⟨rfl, Or.inl (hkeep f' above' (hdisc.trans hf) habove)⟩

theorem readNext_nil_of_ne_nil {stack : List Frame} (h : stack ≠ []) (last : Nat) :
    readNext index settings embedded depth [] stack last = throw (.framing (some last) "vCard is missing END:VCARD") := by
  cases stack with
  | nil => exact absurd rfl h
  | cons f rest => rfl

/-- **Run lemma.** Reading above dropped frames fails, or goes on from the frame
below them as it was, on the lines after them. -/
theorem readNext_dropped {parent : Frame} {others : List Frame} (lines : List LogicalLine) (stack : List Frame)
    (last : Nat) (h : DroppedOver (parent :: others) stack) :
    Continues (readNext index settings embedded depth lines stack last) fun m => ∃ post n, post <:+ lines ∧
      m = readNext index settings embedded depth post ({ parent with pendingAgent := none } :: others) n := by
  induction lines generalizing stack last with
  | nil =>
    -- the text ends inside the dropped frames, and reading fails as it would below them
    obtain ⟨above, hne, _, rfl⟩ := h
    refine Continues.of_leads ?_ ⟨[], last, List.suffix_refl _, rfl⟩
    rw [readNext_nil_of_ne_nil index settings embedded depth (by simp [hne]),
      readNext_nil_of_ne_nil index settings embedded depth (List.cons_ne_nil _ _)]
    exact Leads.refl _
  | cons l rest ih =>
    rw [readNext_cons]
    refine Continues.bind (lineStep_dropped index settings embedded depth h l) fun r ⟨hnone, hr⟩ => ?_
    obtain ⟨_ | c, stack'⟩ := r
    · rcases hr with hd | hr
      · exact (ih stack' l.number hd).mono fun m ⟨post, n, hpost, hm⟩ =>
          ⟨post, n, hpost.trans (List.suffix_cons l rest), hm⟩
      · exact Continues.of_leads (hr ▸ Leads.refl _) ⟨rest, l.number, List.suffix_cons l rest, rfl⟩
    · cases hnone

/-- A `BEGIN:VCARD` inside a card with no `AGENT` waiting opens a dropped frame. -/
theorem lineStep_stray {l : LogicalLine} {parsed : Parsed} (hl : parse l.text = some parsed)
    (hb : Text.upper parsed.name = "BEGIN") (hv : Text.upper (Text.trim parsed.value) = "VCARD") {parent : Frame}
    (others : List Frame) (hp : parent.pendingAgent = none) :
    Yields (lineStep index settings embedded depth l (parent :: others)) fun r =>
      r.1 = none ∧ DroppedOver (parent :: others) r.2 := by
  unfold lineStep
  simp only [hl, hb, hv, beq_self_eq_true, if_true]
  refine Yields.bind (begin_cons settings depth parent others l.number) fun s ⟨f, hs, _, _, hkept⟩ =>
    Yields.pure ⟨rfl, [f], List.cons_ne_nil _ _, fun x hx => ?_, hs⟩
  rw [List.mem_singleton] at hx
  subst hx
  cases hf : x.discard
  · simp [hf, hp] at hkept
  · rfl

end Dropped

/-! ### Depth of embedded cards -/

/-- **Embedded cards lie within the depth limit.** A card read from a text holds
cards at most `max limit 0` links below it, whether nested as lines, embedded as
escaped text, or both. A nested `BEGIN:VCARD` that no `AGENT` waits for is
dropped with everything in it: reading fails, or goes on from the card around
it, unchanged, on lines after it. -/
theorem embedded_depth_bounded (index : CodecIndex) (settings : Settings) :
    (∀ text, Yields (read index settings text) fun cards =>
      ∀ c ∈ cards, ∀ k c', c.Reaches k c' → k ≤ max settings.maxEmbeddedDepth 0) ∧
    ∀ (embedded : EmbeddedReader) (depth : Int) (l : LogicalLine) (parsed : Parsed) (rest : List LogicalLine)
      (parent : Frame) (others : List Frame) (last : Nat),
      parse l.text = some parsed → Text.upper parsed.name = "BEGIN" → Text.upper (Text.trim parsed.value) = "VCARD" →
      parent.pendingAgent = none →
      Continues (readNext index settings embedded depth (l :: rest) (parent :: others) last) fun m =>
        ∃ post n, post <:+ rest ∧ m = readNext index settings embedded depth post (parent :: others) n := by
  refine ⟨fun text => (read_within index settings text).mono fun cards h c hc k c' hr => (h c hc).reaches_le hr, ?_⟩
  intro embedded depth l parsed rest parent others last hl hb hv hp
  have hparent : { parent with pendingAgent := none } = parent := by
    cases parent
    cases hp
    rfl
  rw [readNext_cons]
  refine Continues.bind (lineStep_stray index settings embedded depth hl hb hv others hp) fun r ⟨hnone, hd⟩ => ?_
  obtain ⟨_ | c, stack⟩ := r
  · exact (readNext_dropped index settings embedded depth rest stack _ hd).mono fun m ⟨post, n, hpost, hm⟩ =>
      ⟨post, n, hpost, hparent ▸ hm⟩
  · cases hnone

theorem stray_card_dropped_after_begin :
    Continues (readNext defaultIndex {} (readEmbedded defaultIndex {} 1) 0
        [⟨"BEGIN:VCARD", 2⟩, ⟨"END:VCARD", 3⟩] [{ card := {}, depth := 0 }] 1) fun m =>
      ∃ post n, post <:+ [⟨"END:VCARD", 3⟩] ∧
        m = readNext defaultIndex {} (readEmbedded defaultIndex {} 1) 0 post [{ card := {}, depth := 0 }] n :=
  (embedded_depth_bounded defaultIndex {}).2 _ 0 ⟨"BEGIN:VCARD", 2⟩ _ [⟨"END:VCARD", 3⟩] { card := {}, depth := 0 } []
    1 parse_begin (by decide) (by decide) rfl

end VCard.Vcf
