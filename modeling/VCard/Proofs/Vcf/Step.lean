import VCard.Proofs.Vcf.Embedded
/-! Reading one logical line at a time.

`readNext` reads lines until a card ends. `lineStep` is what it does with one
line: it gives the frame stack after the line, and the card when the line ends
the outermost one; `readNext_cons` says that `readNext` is `lineStep` followed
by `readNext` on the rest, until a card comes out. A property of stacks that
every `lineStep` keeps, and of the cards it gives, therefore holds of every card
`readNext` gives (`readNext_invariant`).

The steps themselves: `«begin»` pushes a frame one level deeper, dropped when
no `AGENT` waits for it or it lies too deep (`begin_cons`); `«end»` pops a frame
and hands its card to the `AGENT` waiting below unless the frame is dropped
(`end_cons_cons`); `readProperty` changes only the card on top
(`readProperty_spec`). -/
namespace VCard.Vcf

open ContentLine

/-- No line but the end of a card gives a card. -/
theorem forall_mem_none {P : Card → Prop} : ∀ c ∈ (none : Option Card), P c :=
  fun c hc => (Option.not_mem_none c hc).elim

/-- A value returned after a step taken on a condition. -/
theorem Yields.ite_pure {α : Type} {P : α → Prop} {x : α} (c : Prop) [Decidable c] (m : ReadM Unit) (h : P x) :
    Yields (if c then m >>= fun _ => Pure.pure x else Pure.pure x) P := by
  split
  · exact Yields.seq fun _ => Yields.pure h
  · exact Yields.pure h

/-! ### One line -/

section Steps

variable (index : CodecIndex) (settings : Settings) (embedded : EmbeddedReader) (depth : Int)

/-- What `readNext` does with one line: the card the line ends, if it ends the
outermost one, and the frames after it. -/
def lineStep (l : LogicalLine) (stack : List Frame) : ReadM (Option Card × List Frame) := do
  match parse l.text with
  | none =>
    if !stack.isEmpty then
      warn ("Skipping malformed line: " ++ Text.quote (String.ofList (l.text.toList.take 60))) none l.number
    return (none, stack)
  | some parsed =>
    let key := Text.upper parsed.name
    let isCard := Text.upper (Text.trim parsed.value) == "VCARD"
    if key == "BEGIN" then
      return (none, ← if isCard then «begin» settings depth stack l.number else pure stack)
    else if key == "END" then
      if !isCard || stack.isEmpty then return (none, stack)
      else «end» stack l.number
    else
      match stack with
      | [] => return (none, [])
      | frame :: others =>
        if key == "VERSION" then
          match Version.find? parsed.value with
          | some v => return (none, { frame with card := { frame.card with version := v } } :: others)
          | none =>
            warn ("Unknown version " ++ Text.quote parsed.value ++ "; reading as " ++ frame.card.version.text ++ ".")
              (some key) l.number
            return (none, frame :: others)
        else return (none, (← readProperty index settings embedded frame parsed l.number) :: others)

/-- How `readNext` goes on after a line: with the card it ended, or with the
rest of the lines. -/
def continueWith (rest : List LogicalLine) (number : Nat) :
    Option Card × List Frame → ReadM (Option Card × List LogicalLine)
  | (some c, _) => pure (some c, rest)
  | (none, stack) => readNext index settings embedded depth rest stack number

theorem readNext_cons (l : LogicalLine) (rest : List LogicalLine) (stack : List Frame) (last : Nat) :
    readNext index settings embedded depth (l :: rest) stack last =
      lineStep index settings embedded depth l stack >>= continueWith index settings embedded depth rest l.number := by
  cases hp : parse l.text with
  | none =>
    simp only [readNext, lineStep, hp]
    split <;> simp [continueWith]
  | some parsed =>
    simp only [readNext, lineStep, hp]
    split
    · split <;> simp [continueWith]
    · split
      · split
        · simp [continueWith]
        · -- `END:VCARD` closing a card: `«end»` decides whether reading stops
          refine congrArg _ (funext fun r => ?_)
          rcases r with ⟨_ | c, s⟩ <;> rfl
      · cases stack with
        | nil => simp [continueWith]
        | cons frame others =>
          simp only
          split
          · cases Version.find? parsed.value <;> simp [continueWith]
          · simp [continueWith]

/-- **Run lemma.** A property `I` of frame stacks that every line keeps, giving
only cards of `P`, makes every card `readNext` gives a card of `P`. -/
theorem readNext_invariant {I : List Frame → Prop} {P : Card → Prop}
    (hstep : ∀ l stack, I stack → Yields (lineStep index settings embedded depth l stack) fun r => I r.2 ∧ ∀ c ∈ r.1, P c)
    (lines : List LogicalLine) (stack : List Frame) (last : Nat) (hI : I stack) :
    Yields (readNext index settings embedded depth lines stack last) fun r => ∀ c ∈ r.1, P c := by
  induction lines generalizing stack last with
  | nil =>
    rw [readNext]
    split
    · exact Yields.pure forall_mem_none
    · exact Yields.throw
  | cons l rest ih =>
    rw [readNext_cons]
    refine Yields.bind (hstep l stack hI) fun r hr => ?_
    rcases r with ⟨_ | c, stack'⟩
    · exact ih stack' l.number hr.1
    · exact Yields.pure hr.2

end Steps

/-! ### Opening and closing a card -/

/-- A card opened inside another lies one level deeper; it is kept only when
the card around it is kept, an `AGENT` of it waits for a card, and the depth is
within the limit. -/
theorem begin_cons (settings : Settings) (depth : Int) (parent : Frame) (rest : List Frame) (line : Nat) :
    Yields («begin» settings depth (parent :: rest) line) fun stack =>
      ∃ f, stack = f :: parent :: rest ∧ f.depth = parent.depth + 1 ∧ f.card.embedded = [] ∧
        (f.discard = false →
          parent.discard = false ∧ parent.pendingAgent.isSome ∧ f.depth ≤ settings.maxEmbeddedDepth) := by
  unfold «begin»
  dsimp only
  split
  · exact Yields.seq fun _ => Yields.pure ⟨_, rfl, rfl, rfl, fun h => Bool.noConfusion h⟩
  split
  · exact Yields.seq fun _ => Yields.pure ⟨_, rfl, rfl, rfl, fun h => Bool.noConfusion h⟩
  · next hnone hdeep =>
    refine Yields.pure ⟨_, rfl, rfl, rfl, fun h => ⟨h, ?_, ?_⟩⟩
    · exact Option.isSome_iff_ne_none.2 (by simpa using hnone)
    · simpa using hdeep

theorem end_single (f : Frame) (line : Nat) :
    Yields («end» [f] line) fun r => r = (some (assignLabels f.card f.labels), []) :=
  Yields.ite_pure _ _ rfl

/-- A card closed inside another goes to the `AGENT` waiting for it, unless it
is dropped; the card below gains no other card. -/
theorem end_cons_cons (f g : Frame) (others : List Frame) (line : Nat) :
    Yields («end» (f :: g :: others) line) fun r => r.1 = none ∧
      ∃ card, r.2 = { g with card, pendingAgent := none } :: others ∧ (f.discard = true → card = g.card) ∧
        ∀ x ∈ card.embedded, x ∈ g.card.embedded ∨ x = assignLabels f.card f.labels := by
  refine Yields.ite_pure _ _ ⟨rfl, _, rfl, fun hd => ?_, fun x hx => ?_⟩
  · split
    · simp [hd]
    · rfl
  · split at hx
    · split at hx
      · exact Or.inl hx
      · refine Card.mem_embedded_modify (R := (· = assignLabels f.card f.labels)) (fun p => ?_) hx
        split
        · exact Or.inr fun y hy => (Option.some.inj hy).symm
        · exact Or.inl rfl
    · exact Or.inl hx

/-! ### A property -/

/-- What reading a content line changes in the frame: not its depth nor whether
it is dropped, and the cards it holds only by a card the embedded reader read at
the next depth. -/
theorem readProperty_spec (index : CodecIndex) (settings : Settings) (embedded : EmbeddedReader) (frame : Frame)
    (parsed : Parsed) (line : Nat) {Q : Card → Prop}
    (hemb : ∀ t name line, Yields (embedded t (frame.depth + 1) name line) fun r => ∀ c ∈ r, Q c) :
    Yields (readProperty index settings embedded frame parsed line) fun f' =>
      f'.depth = frame.depth ∧ f'.discard = frame.discard ∧ ∀ x ∈ f'.card.embedded, x ∈ frame.card.embedded ∨ Q x := by
  unfold readProperty
  refine Yields.seq fun s => ?_
  extract_lets params quoted codec addProperty position afterDecoding
  suffices h : ∀ vp, Yields (afterDecoding vp) fun f' =>
      f'.depth = frame.depth ∧ f'.discard = frame.discard ∧ ∀ x ∈ f'.card.embedded, x ∈ frame.card.embedded ∨ Q x by
    split
    · exact Yields.seq h
    · exact Yields.seq h
  rintro ⟨value, params⟩
  dsimp -zeta only [afterDecoding]
  extract_lets erased tail
  suffices h : ∀ explicit, Yields (tail explicit) fun f' =>
      f'.depth = frame.depth ∧ f'.discard = frame.discard ∧ ∀ x ∈ f'.card.embedded, x ∈ frame.card.embedded ∨ Q x by
    split
    · split
      · exact Yields.seq h
      · exact Yields.seq fun _ => Yields.seq fun _ => Yields.seq h
    · exact Yields.seq h
  intro explicit
  dsimp -zeta only [tail]
  extract_lets dt
  refine Yields.seq fun s' => ?_
  extract_lets r
  refine Yields.seq fun _ => ?_
  extract_lets
  -- a property added to the card embeds a card only when it is the `AGENT` whose card is read
  have hadd : ∀ p : Property, p.value.embeddedCard? = none →
      (addProperty p).depth = frame.depth ∧ (addProperty p).discard = frame.discard ∧
        ∀ x ∈ (addProperty p).card.embedded, x ∈ frame.card.embedded ∨ Q x := by
    intro p hp
    refine ⟨rfl, rfl, fun x hx => Or.inl ?_⟩
    simpa [addProperty, Card.embedded_add, hp] using hx
  cases hr : r.reading with
  | value x =>
    have hx : x.embeddedCard? = none := (Codec.readText_no_card codec value dt).run'_value hr
    refine Yields.seq fun _ => ?_
    split
    · split
      · exact Yields.pure ⟨rfl, rfl, fun y hy => Or.inl hy⟩
      · exact Yields.pure (hadd _ hx)
    · exact Yields.pure (hadd _ hx)
  | skip why => exact Yields.seq fun _ => Yields.pure ⟨rfl, rfl, fun y hy => Or.inl hy⟩
  | cannotParse why => exact Yields.seq fun _ => Yields.pure (hadd _ rfl)
  | embedded text =>
    refine Yields.seq fun _ => ?_
    obtain ⟨hd, hdisc, hagent⟩ := hadd (Property.make parsed.name (.agent .empty) r.params parsed.group) rfl
    cases text with
    | none => exact Yields.pure ⟨hd, hdisc, hagent⟩
    | some t =>
      refine Yields.bind (hemb t _ line) fun child hchild => ?_
      cases child with
      | none => exact Yields.pure ⟨hd, hdisc, hagent⟩
      | some child =>
        refine Yields.pure ⟨hd, hdisc, fun y hy => ?_⟩
        rcases Card.mem_embedded_modify (R := (· = child)) (f := fun p => { p with value := .agent (.card child) })
          (fun _ => Or.inr fun _ hy => (Option.some.inj hy).symm) hy with h | h
        · exact hagent y h
        · exact Or.inr (h ▸ hchild child rfl)

end VCard.Vcf
