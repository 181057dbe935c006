import VCard.Proofs.Vcf.Read
/-! Reading that warns of nothing.

`Returns` says what a reading gives and lets the session change in any way.
`Quietly` says more: the reading gives its value and leaves the warnings of the
session as they were; only the data types created so far may change. A reading
made of quiet steps is quiet (`Quietly.bind_quietly`, `QuietLeads`).

The lines of a card of one property are read quietly when the property's line
is (`read_single_quiet`): `BEGIN:VCARD` and the version line never warn, and
`END:VCARD` warns only of an `AGENT` still waiting for its card. -/
namespace VCard.Vcf

open ContentLine

/-! ### Quiet runs -/

section Runs

variable {α β : Type}

/-- A reading that ends with `a` from every session and adds no warning to it. -/
def Quietly (m : ReadM α) (a : α) : Prop := ∀ s : Session, ∃ types, m.run.run s = (.ok a, { s with types })

/-- A reading that goes on as `m'` does, from a session whose warnings it left
as they were. -/
def QuietLeads (m m' : ReadM α) : Prop :=
  ∀ s : Session, ∃ types, m.run.run s = m'.run.run { s with types }

theorem Quietly.returns {m : ReadM α} {a : α} (h : Quietly m a) : Returns m a := by
  intro s
  obtain ⟨types, hs⟩ := h s
  exact ⟨_, hs⟩

theorem Quietly.pure (a : α) : Quietly (Pure.pure a : ReadM α) a := fun s => ⟨s.types, rfl⟩

theorem QuietLeads.refl (m : ReadM α) : QuietLeads m m := fun s => ⟨s.types, rfl⟩

theorem QuietLeads.trans {m m' m'' : ReadM α} (h : QuietLeads m m') (h' : QuietLeads m' m'') :
    QuietLeads m m'' := by
  intro s
  obtain ⟨types, hs⟩ := h s
  obtain ⟨types', hs'⟩ := h' { s with types }
  exact ⟨types', hs.trans hs'⟩

theorem QuietLeads.quietly {m m' : ReadM α} {a : α} (h : QuietLeads m m') (h' : Quietly m' a) : Quietly m a := by
  intro s
  obtain ⟨types, hs⟩ := h s
  obtain ⟨types', hs'⟩ := h' { s with types }
  exact ⟨types', hs.trans hs'⟩

/-- What follows a quiet reading goes on from its value, as quietly. -/
theorem Quietly.bind {m : ReadM α} {a : α} (h : Quietly m a) (k : α → ReadM β) : QuietLeads (m >>= k) (k a) := by
  intro s
  obtain ⟨types, hs⟩ := h s
  refine ⟨types, ?_⟩
  simp only [ExceptT.run_bind, StateT.run_bind, hs]
  rfl

theorem Quietly.bind_quietly {m : ReadM α} {a : α} {k : α → ReadM β} {b : β} (h : Quietly m a)
    (hk : Quietly (k a) b) : Quietly (m >>= k) b :=
  (h.bind k).quietly hk

end Runs

/-! ### The lines of a card -/

section Lines

variable (index : CodecIndex) (settings : Settings) (embedded : EmbeddedReader) (depth : Int)

theorem readNext_begin_quiet {l : LogicalLine} (hl : l.text = "BEGIN:VCARD") (rest : List LogicalLine)
    (last : Nat) :
    QuietLeads (readNext index settings embedded depth (l :: rest) [] last)
      (readNext index settings embedded depth rest [{ card := { version := .v21 }, depth }] l.number) := by
  intro s
  refine ⟨s.types, ?_⟩
  rw [readNext, hl, parse_begin]
  rfl

theorem readNext_version_quiet {l : LogicalLine} {v : Version} (hl : l.text = "VERSION:" ++ v.text)
    (rest : List LogicalLine) (frame : Frame) (others : List Frame) (last : Nat) :
    QuietLeads (readNext index settings embedded depth (l :: rest) (frame :: others) last)
      (readNext index settings embedded depth rest
        ({ frame with card := { frame.card with version := v } } :: others) l.number) := by
  intro s
  refine ⟨s.types, ?_⟩
  rw [readNext, hl, parse_version]
  cases v <;> rfl

theorem readNext_property_quiet {l : LogicalLine} {parsed : Parsed} (hl : parse l.text = some parsed)
    (hkey : Text.upper parsed.name ∉ ["BEGIN", "END", "VERSION"]) {frame frame' : Frame}
    (hread : Quietly (readProperty index settings embedded frame parsed l.number) frame')
    (rest : List LogicalLine) (others : List Frame) (last : Nat) :
    QuietLeads (readNext index settings embedded depth (l :: rest) (frame :: others) last)
      (readNext index settings embedded depth rest (frame' :: others) l.number) := by
  simp only [List.mem_cons, List.not_mem_nil, or_false, not_or] at hkey
  obtain ⟨hb, he, hv⟩ := hkey
  have hb' : (Text.upper parsed.name == "BEGIN") = false := by simpa using hb
  have he' : (Text.upper parsed.name == "END") = false := by simpa using he
  have hv' : (Text.upper parsed.name == "VERSION") = false := by simpa using hv
  rw [readNext, hl]
  simp only [hb', he', hv', Bool.false_eq_true, if_false]
  exact hread.bind _

/-- `END:VCARD` closes the outermost card quietly when no `AGENT` waits for a
card. -/
theorem readNext_end_quiet {l : LogicalLine} (hl : l.text = "END:VCARD") (rest : List LogicalLine)
    {frame : Frame} (hagent : frame.pendingAgent = none) (last : Nat) :
    Quietly (readNext index settings embedded depth (l :: rest) [frame] last)
      (some (assignLabels frame.card frame.labels), rest) := by
  intro s
  refine ⟨s.types, ?_⟩
  rw [readNext, hl, parse_end]
  simp [«end», hagent]
  rfl

end Lines

/-- **The lines of a card of one property read back quietly as that card**,
when reading the property's line is quiet and leaves no `AGENT` waiting. -/
theorem read_single_quiet (index : CodecIndex) (settings : Settings) {text : String} {lb lv lp le : LogicalLine}
    {v : Version} {parsed : Parsed} {frame : Frame}
    (hlines : logicalLines text = [lb, lv, lp, le])
    (hb : lb.text = "BEGIN:VCARD") (hv : lv.text = "VERSION:" ++ v.text) (he : le.text = "END:VCARD")
    (hp : parse lp.text = some parsed) (hkey : Text.upper parsed.name ∉ ["BEGIN", "END", "VERSION"])
    (hread : Quietly (readProperty index settings (readEmbedded index settings (text.length + 1))
      { card := { version := v }, depth := 0 } parsed lp.number) frame)
    (hagent : frame.pendingAgent = none) :
    Quietly (read index settings text) [assignLabels frame.card frame.labels] := by
  -- the card's four lines, then nothing left
  have hcard : Quietly (readNext index settings (readEmbedded index settings (text.length + 1)) 0
      [lb, lv, lp, le] [] 0)
      (some (assignLabels frame.card frame.labels), []) :=
    ((readNext_begin_quiet index settings _ 0 hb _ 0).trans
      ((readNext_version_quiet index settings _ 0 hv _ _ [] lb.number).trans
        (readNext_property_quiet index settings _ 0 hp hkey hread _ [] lv.number))).quietly
      (readNext_end_quiet index settings _ 0 he [] hagent lp.number)
  unfold read
  rw [hlines]
  intro s
  obtain ⟨types, hs⟩ := hcard s
  refine ⟨types, ?_⟩
  simp only [List.length_cons, List.length_nil, readCards, ExceptT.run_bind, StateT.run_bind, hs]
  rfl

end VCard.Vcf
