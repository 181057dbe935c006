import VCard.Vcf.Read
/-! Reading a card, line by line.

Reading runs in `ReadM`, whose session collects warnings and the data types met
so far. What a card reads back as does not depend on the session, so the
lemmas here say what a reading returns from every session (`Returns`), or that
one reading goes on as another once the session has changed (`Leads`); both
are said of any run with a state and failures, writing included. Where the
value depends on the session, `Yields` says what holds of every value a reading
ends with, `Raises` the same of every failure, `Fails` that a reading fails
in one way from every session, and `Continues` that a reading fails or goes on
as one of a set of readings.

`readNext` takes the logical lines of a card one at a time: `BEGIN:VCARD` opens
the card (`readNext_begin`), a `VERSION` line sets its version
(`readNext_version`), any other content line is read into the card by
`readProperty` (`readNext_property`, and `readNext_properties` for a run of
them), and `END:VCARD` closes it with its labels attached (`readNext_end`).
`read_card` puts them together: text whose logical lines are the lines of one
card reads back as that card, and as nothing else. -/
namespace VCard.Vcf

open ContentLine

/-! ### Runs up to the state -/

section Runs

variable {ε σ α β : Type}

/-- A run that ends with `a` from every state. -/
def Returns (m : ExceptT ε (StateM σ) α) (a : α) : Prop := ∀ s, ∃ s', m.run.run s = (.ok a, s')

/-- A run that goes on as `m'` does, from a state it may have changed. -/
def Leads (m m' : ExceptT ε (StateM σ) α) : Prop := ∀ s, ∃ s', m.run.run s = m'.run.run s'

theorem Leads.refl (m : ExceptT ε (StateM σ) α) : Leads m m := fun s => ⟨s, rfl⟩

theorem Leads.trans {m m' m'' : ExceptT ε (StateM σ) α} (h : Leads m m') (h' : Leads m' m'') : Leads m m'' := by
  intro s
  obtain ⟨s', hs⟩ := h s
  obtain ⟨s'', hs'⟩ := h' s'
  exact ⟨s'', hs.trans hs'⟩

theorem Leads.returns {m m' : ExceptT ε (StateM σ) α} {a : α} (h : Leads m m') (h' : Returns m' a) :
    Returns m a := by
  intro s
  obtain ⟨s', hs⟩ := h s
  obtain ⟨s'', hs'⟩ := h' s'
  exact ⟨s'', hs.trans hs'⟩

theorem Returns.pure (a : α) : Returns (Pure.pure a : ExceptT ε (StateM σ) α) a := fun s => ⟨s, rfl⟩

/-- What follows a run that returns `a` goes on from `a`. -/
theorem Returns.bind {m : ExceptT ε (StateM σ) α} {a : α} (h : Returns m a) (k : α → ExceptT ε (StateM σ) β) :
    Leads (m >>= k) (k a) := by
  intro s
  obtain ⟨s', hs⟩ := h s
  refine ⟨s', ?_⟩
  simp only [ExceptT.run_bind, StateT.run_bind, hs]
  rfl

theorem Returns.bind_returns {m : ExceptT ε (StateM σ) α} {a : α} {k : α → ExceptT ε (StateM σ) β} {b : β}
    (h : Returns m a) (hk : Returns (k a) b) : Returns (m >>= k) b :=
  (h.bind k).returns hk

/-- Every value a run ends with, from any state, satisfies `P`. -/
def Yields (m : ExceptT ε (StateM σ) α) (P : α → Prop) : Prop :=
  ∀ s a s', m.run.run s = (.ok a, s') → P a

theorem Yields.pure {a : α} {P : α → Prop} (h : P a) : Yields (Pure.pure a : ExceptT ε (StateM σ) α) P := by
  intro s b s' hs
  cases hs
  exact h

theorem Yields.bind {m : ExceptT ε (StateM σ) α} {Q : α → Prop} {P : β → Prop} {k : α → ExceptT ε (StateM σ) β}
    (hm : Yields m Q) (hk : ∀ a, Q a → Yields (k a) P) : Yields (m >>= k) P := by
  intro s b s' hs
  simp only [ExceptT.run_bind, StateT.run_bind] at hs
  rcases hrun : m.run.run s with ⟨r, s1⟩
  rw [hrun] at hs
  cases r with
  | error e => cases hs
  | ok a => exact hk a (hm s a s1 hrun) s1 b s' hs

theorem Yields.mono {m : ExceptT ε (StateM σ) α} {P Q : α → Prop} (h : Yields m P) (hPQ : ∀ a, P a → Q a) :
    Yields m Q :=
  fun s a s' hs => hPQ a (h s a s' hs)

/-- A step whose value does not matter. -/
theorem Yields.seq {m : ExceptT ε (StateM σ) α} {P : β → Prop} {k : α → ExceptT ε (StateM σ) β}
    (hk : ∀ a, Yields (k a) P) : Yields (m >>= k) P :=
  Yields.bind (Q := fun _ => True) (fun _ _ _ _ => trivial) fun a _ => hk a

theorem Yields.throw {e : ε} {P : α → Prop} : Yields (throw e : ExceptT ε (StateM σ) α) P := by
  intro s a s' hs
  cases hs

/-- Every run of `m` fails, or goes on as one of the runs `P` admits, from a
state it may have changed. -/
def Continues (m : ExceptT ε (StateM σ) α) (P : ExceptT ε (StateM σ) α → Prop) : Prop :=
  ∀ s, (∃ e s', m.run.run s = (.error e, s')) ∨ ∃ m' s', P m' ∧ m.run.run s = m'.run.run s'

theorem Continues.of_leads {m m' : ExceptT ε (StateM σ) α} {P : ExceptT ε (StateM σ) α → Prop} (h : Leads m m')
    (hm' : P m') : Continues m P := by
  intro s
  obtain ⟨s', hs⟩ := h s
  exact Or.inr ⟨m', s', hm', hs⟩

theorem Continues.mono {m : ExceptT ε (StateM σ) α} {P P' : ExceptT ε (StateM σ) α → Prop} (h : Continues m P)
    (hP : ∀ m', P m' → P' m') : Continues m P' := by
  intro s
  rcases h s with hfail | ⟨m', s', hm', hs⟩
  · exact Or.inl hfail
  · exact Or.inr ⟨m', s', hP m' hm', hs⟩

theorem Continues.bind {m : ExceptT ε (StateM σ) β} {Q : β → Prop} {k : β → ExceptT ε (StateM σ) α}
    {P : ExceptT ε (StateM σ) α → Prop} (hm : Yields m Q) (hk : ∀ b, Q b → Continues (k b) P) :
    Continues (m >>= k) P := by
  intro s
  rcases hrun : m.run.run s with ⟨r, s1⟩
  cases r with
  | error e =>
    left
    refine ⟨e, s1, ?_⟩
    simp only [ExceptT.run_bind, StateT.run_bind, hrun]
    rfl
  | ok b =>
    have hb : (m >>= k).run.run s = (k b).run.run s1 := by
      simp only [ExceptT.run_bind, StateT.run_bind, hrun]
      rfl
    rw [hb]
    exact hk b (hm s b s1 hrun) s1

/-- Every failure a run ends with, from any state, satisfies `Q`. -/
def Raises (m : ExceptT ε (StateM σ) α) (Q : ε → Prop) : Prop :=
  ∀ s e s', m.run.run s = (.error e, s') → Q e

theorem Raises.pure {a : α} {Q : ε → Prop} : Raises (Pure.pure a : ExceptT ε (StateM σ) α) Q := by
  intro s e s' hs
  cases hs

theorem Raises.throw {e : ε} {Q : ε → Prop} (h : Q e) : Raises (throw e : ExceptT ε (StateM σ) α) Q := by
  intro s e' s' hs
  cases hs
  exact h

/-- A failure of `m >>= k` is one of `m`, or one of `k` after a value of `m`. -/
theorem Raises.bind {m : ExceptT ε (StateM σ) α} {P : α → Prop} {Q : ε → Prop} {k : α → ExceptT ε (StateM σ) β}
    (hm : Raises m Q) (hy : Yields m P) (hk : ∀ a, P a → Raises (k a) Q) : Raises (m >>= k) Q := by
  intro s e s' hs
  simp only [ExceptT.run_bind, StateT.run_bind] at hs
  rcases hrun : m.run.run s with ⟨r, s1⟩
  rw [hrun] at hs
  cases r with
  | error e₀ =>
    cases hs
    exact hm s e s1 hrun
  | ok a => exact hk a (hy s a s1 hrun) s1 e s' hs

/-- A step whose value does not matter. -/
theorem Raises.seq {m : ExceptT ε (StateM σ) α} {Q : ε → Prop} {k : α → ExceptT ε (StateM σ) β}
    (hm : Raises m Q) (hk : ∀ a, Raises (k a) Q) : Raises (m >>= k) Q :=
  Raises.bind (P := fun _ => True) hm (fun _ _ _ _ => trivial) fun a _ => hk a

theorem Raises.mono {m : ExceptT ε (StateM σ) α} {Q Q' : ε → Prop} (h : Raises m Q) (hQ : ∀ e, Q e → Q' e) :
    Raises m Q' :=
  fun s e s' hs => hQ e (h s e s' hs)

theorem Raises.get {Q : ε → Prop} : Raises (get : ExceptT ε (StateM σ) σ) Q := by
  intro s e s' hs
  cases hs

theorem Raises.set {Q : ε → Prop} (s₀ : σ) : Raises (set s₀ : ExceptT ε (StateM σ) PUnit) Q := by
  intro s e s' hs
  cases hs

theorem Raises.modify {Q : ε → Prop} (f : σ → σ) : Raises (modify f : ExceptT ε (StateM σ) PUnit) Q := by
  intro s e s' hs
  cases hs

theorem Raises.forM {γ : Type} {xs : List γ} {f : γ → ExceptT ε (StateM σ) PUnit} {Q : ε → Prop}
    (h : ∀ x, Raises (f x) Q) : Raises (xs.forM f) Q := by
  induction xs with
  | nil => exact Raises.pure
  | cons x xs ih =>
    exact Raises.seq (h x) fun _ => ih

theorem Raises.forIn {γ : Type} {xs : List γ} {init : β} {body : γ → β → ExceptT ε (StateM σ) (ForInStep β)}
    {Q : ε → Prop} (h : ∀ x ∈ xs, ∀ acc, Raises (body x acc) Q) : Raises (forIn xs init body) Q := by
  induction xs generalizing init with
  | nil => exact Raises.pure
  | cons x xs ih =>
    rw [List.forIn_cons]
    refine Raises.seq (h x List.mem_cons_self init) fun r => ?_
    cases r with
    | done b => exact Raises.pure
    | yield b => exact ih fun y hy => h y (List.mem_cons_of_mem _ hy)

theorem Raises.foldlM {γ : Type} {xs : List γ} {f : β → γ → ExceptT ε (StateM σ) β} {init : β} {Q : ε → Prop}
    (h : ∀ acc, ∀ x ∈ xs, Raises (f acc x) Q) : Raises (xs.foldlM f init) Q := by
  induction xs generalizing init with
  | nil => exact Raises.pure
  | cons x xs ih =>
    rw [List.foldlM_cons]
    exact Raises.seq (h init x List.mem_cons_self) fun _ => ih fun a y hy => h a y (List.mem_cons_of_mem _ hy)

/-- A run that fails with `e` from every state. -/
def Fails (m : ExceptT ε (StateM σ) α) (e : ε) : Prop := ∀ s, ∃ s', m.run.run s = (.error e, s')

theorem Fails.bind {m : ExceptT ε (StateM σ) α} {e : ε} (h : Fails m e) (k : α → ExceptT ε (StateM σ) β) :
    Fails (m >>= k) e := by
  intro s
  obtain ⟨s', hs⟩ := h s
  refine ⟨s', ?_⟩
  simp only [ExceptT.run_bind, StateT.run_bind, hs]
  rfl

theorem Fails.throw {e : ε} : Fails (throw e : ExceptT ε (StateM σ) α) e := fun s => ⟨s, rfl⟩

/-- A run that fails after a step that never does. -/
theorem Fails.bind_right {m : ExceptT ε (StateM σ) α} {P : α → Prop} {k : α → ExceptT ε (StateM σ) β} {e : ε}
    (hm : Raises m fun _ => False) (hy : Yields m P) (hk : ∀ a, P a → Fails (k a) e) : Fails (m >>= k) e := by
  intro s
  rcases hrun : m.run.run s with ⟨r, s1⟩
  cases r with
  | error e' => exact (hm s e' s1 hrun).elim
  | ok a =>
    obtain ⟨s', hs⟩ := hk a (hy s a s1 hrun) s1
    refine ⟨s', ?_⟩
    simp only [ExceptT.run_bind, StateT.run_bind, hrun]
    exact hs

theorem Leads.fails {m m' : ExceptT ε (StateM σ) α} {e : ε} (h : Leads m m') (h' : Fails m' e) : Fails m e := by
  intro s
  obtain ⟨s', hs⟩ := h s
  obtain ⟨s'', hs'⟩ := h' s'
  exact ⟨s'', hs.trans hs'⟩

end Runs

/-! ### The lines of a card -/

section Lines

variable (index : CodecIndex) (settings : Settings) (embedded : EmbeddedReader) (depth : Int)

theorem parse_begin : parse "BEGIN:VCARD" = some ⟨none, "BEGIN", [], "VCARD"⟩ := by decide

theorem parse_end : parse "END:VCARD" = some ⟨none, "END", [], "VCARD"⟩ := by decide

theorem parse_version (v : Version) : parse ("VERSION:" ++ v.text) = some ⟨none, "VERSION", [], v.text⟩ := by
  cases v <;> decide

/-- `BEGIN:VCARD` outside any card opens one, in version 2.1. -/
theorem readNext_begin {l : LogicalLine} (hl : l.text = "BEGIN:VCARD") (rest : List LogicalLine) (last : Nat) :
    Leads (readNext index settings embedded depth (l :: rest) [] last)
      (readNext index settings embedded depth rest [{ card := { version := .v21 }, depth }] l.number) := by
  intro s
  refine ⟨s, ?_⟩
  rw [readNext, hl, parse_begin]
  rfl

/-- A `VERSION` line sets the version of the card being read. -/
theorem readNext_version {l : LogicalLine} {v : Version} (hl : l.text = "VERSION:" ++ v.text)
    (rest : List LogicalLine) (frame : Frame) (others : List Frame) (last : Nat) :
    Leads (readNext index settings embedded depth (l :: rest) (frame :: others) last)
      (readNext index settings embedded depth rest
        ({ frame with card := { frame.card with version := v } } :: others) l.number) := by
  intro s
  refine ⟨s, ?_⟩
  rw [readNext, hl, parse_version]
  cases v <;> rfl

/-- Any other content line is read into the card by `readProperty`. -/
theorem readNext_property {l : LogicalLine} {parsed : Parsed} (hl : parse l.text = some parsed)
    (hkey : Text.upper parsed.name ∉ ["BEGIN", "END", "VERSION"]) {frame frame' : Frame}
    (hread : Returns (readProperty index settings embedded frame parsed l.number) frame')
    (rest : List LogicalLine) (others : List Frame) (last : Nat) :
    Leads (readNext index settings embedded depth (l :: rest) (frame :: others) last)
      (readNext index settings embedded depth rest (frame' :: others) l.number) := by
  simp only [List.mem_cons, List.not_mem_nil, or_false, not_or] at hkey
  obtain ⟨hb, he, hv⟩ := hkey
  have hb' : (Text.upper parsed.name == "BEGIN") = false := by simpa using hb
  have he' : (Text.upper parsed.name == "END") = false := by simpa using he
  have hv' : (Text.upper parsed.name == "VERSION") = false := by simpa using hv
  rw [readNext, hl]
  simp only [hb', he', hv', Bool.false_eq_true, if_false]
  exact hread.bind _

/-- `END:VCARD` closes the outermost card, with its labels attached. -/
theorem readNext_end {l : LogicalLine} (hl : l.text = "END:VCARD") (rest : List LogicalLine) (frame : Frame)
    (last : Nat) :
    Returns (readNext index settings embedded depth (l :: rest) [frame] last)
      (some (assignLabels frame.card frame.labels), rest) := by
  intro s
  rw [readNext, hl, parse_end]
  by_cases hp : frame.pendingAgent.isSome = true
  · exact ⟨_, by simp [«end», hp]; rfl⟩
  · exact ⟨_, by simp [«end», hp]; rfl⟩

/-- Content lines that `readProperty` reads one after the other, from one frame
to another. -/
inductive PropertySteps : Frame → List LogicalLine → Frame → Prop
  | nil (frame : Frame) : PropertySteps frame [] frame
  | cons {frame frame' frame'' : Frame} {l : LogicalLine} {ls : List LogicalLine} {parsed : Parsed} :
      parse l.text = some parsed → Text.upper parsed.name ∉ ["BEGIN", "END", "VERSION"] →
      Returns (readProperty index settings embedded frame parsed l.number) frame' →
      PropertySteps frame' ls frame'' → PropertySteps frame (l :: ls) frame''

/-- A run of content lines is read property by property. -/
theorem readNext_properties {frame frame' : Frame} {ls : List LogicalLine}
    (h : PropertySteps index settings embedded frame ls frame') (rest : List LogicalLine) (others : List Frame)
    (last : Nat) :
    ∃ last', Leads (readNext index settings embedded depth (ls ++ rest) (frame :: others) last)
      (readNext index settings embedded depth rest (frame' :: others) last') := by
  induction h generalizing last with
  | nil frame => exact ⟨last, Leads.refl _⟩
  | cons hl hkey hread _ ih =>
    obtain ⟨last', hlead⟩ := ih _
    exact ⟨last', (readNext_property index settings embedded depth hl hkey hread _ others last).trans hlead⟩

/-- **The lines of one card read back as that card**: `BEGIN:VCARD`, a version,
content lines read property by property, and `END:VCARD`. -/
theorem readNext_card {lb lv le : LogicalLine} {v : Version} {props : List LogicalLine} {frame : Frame}
    (hb : lb.text = "BEGIN:VCARD") (hv : lv.text = "VERSION:" ++ v.text) (he : le.text = "END:VCARD")
    (hsteps : PropertySteps index settings embedded { card := { version := v }, depth } props frame)
    (rest : List LogicalLine) (last : Nat) :
    Returns (readNext index settings embedded depth (lb :: lv :: (props ++ le :: rest)) [] last)
      (some (assignLabels frame.card frame.labels), rest) := by
  obtain ⟨last', hprops⟩ := readNext_properties index settings embedded depth hsteps (le :: rest) [] lv.number
  have hlead := (readNext_begin index settings embedded depth hb _ last).trans
    ((readNext_version index settings embedded depth hv _ _ [] lb.number).trans hprops)
  exact hlead.returns (readNext_end index settings embedded depth he rest frame last')

end Lines

/-- **Text whose logical lines are those of one card reads back as that card
alone.** -/
theorem read_card (index : CodecIndex) (settings : Settings) {text : String} {lb lv le : LogicalLine}
    {v : Version} {props : List LogicalLine} {frame : Frame}
    (hlines : logicalLines text = lb :: lv :: (props ++ [le]))
    (hb : lb.text = "BEGIN:VCARD") (hv : lv.text = "VERSION:" ++ v.text) (he : le.text = "END:VCARD")
    (hsteps : PropertySteps index settings (readEmbedded index settings (text.length + 1))
      { card := { version := v }, depth := 0 } props frame) :
    Returns (read index settings text) [assignLabels frame.card frame.labels] := by
  have hcard := readNext_card index settings (readEmbedded index settings (text.length + 1)) 0 hb hv he hsteps [] 0
  unfold read
  rw [hlines]
  dsimp only
  -- two readings of cards: the card, then nothing left
  obtain ⟨n, hn⟩ : ∃ n, (lb :: lv :: (props ++ [le])).length + 1 = n + 2 := ⟨props.length + 2, by simp⟩
  rw [hn]
  intro s
  obtain ⟨s', hs⟩ := hcard s
  refine ⟨s', ?_⟩
  simp only [readCards, ExceptT.run_bind, StateT.run_bind, hs]
  rfl

end VCard.Vcf
