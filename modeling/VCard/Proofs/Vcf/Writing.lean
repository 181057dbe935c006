import VCard.Proofs.Vcf.RoundTrip
/-! Where writing fails.

A codec fails to write a value in one case only: a timestamp whose instant,
moved to UTC, leaves the years 1 to 9999 (`Codec.writeText_stops`); it hands an
embedded card to the writer only for an `AGENT` that holds one. In 2.1 a value
with a line break is written quoted-printable in its `CHARSET`, which fails when
that character set cannot encode it. Nothing else fails: a value the version
cannot hold is skipped with a warning, and so is a card embedded past the depth
limit.

`write_fails_only_on_values`: writing cards returns, or fails on a timestamp
held by one of the cards or by a card embedded in one, or, in 2.1, on encoding
a quoted-printable value. A failure of encoding is not made a warning: a 2.1
note with a line break, in a character set whose name holds a NUL character,
fails the whole writing (`nulCharset_write_fails`). -/
namespace VCard

namespace Codec

open Vcf

/-- What may stop the writing of a value: a failure only for a timestamp whose
instant in UTC is out of range, and an embedded card only for an `AGENT` holding
it. -/
def StopsFor (x : Value) (stop : WriteStop) : Prop :=
  (∀ e, stop = .failure e → ∃ t, x = .timestamp (some (.dateTime t)) ∧ t.toUtc = .error e) ∧
    ∀ c, stop = .embedded c → x = .agent (.card c)

theorem StopsFor.skip (x : Value) (reason : String) : StopsFor x (.skip reason) :=
  ⟨fun _ h => WriteStop.noConfusion h, fun _ h => WriteStop.noConfusion h⟩

/-- A stamp written without moving it to UTC is always written. -/
theorem Stamp.format_local (s : Stamp) (extended : Bool) : ∃ t, s.format extended false = .ok t := by
  cases s <;> exact ⟨_, rfl⟩

/-- **A codec stops only where `StopsFor` says**: it fails only on a timestamp
out of range in UTC, and hands over only the card an `AGENT` holds; every other
stop is a skip. -/
theorem writeText_stops (c : Codec) (x : Value) (v : Version) : Raises (c.writeText x v) (StopsFor x) := by
  unfold writeText
  split
  · split <;> exact Raises.pure
  · exact Raises.pure
  · -- a telephone
    split
    · split <;> exact Raises.pure
    · exact Raises.pure
    · exact Raises.pure
  · split <;> exact Raises.pure
  · split <;> exact Raises.pure
  · -- an XML document
    split
    · split
      · exact Raises.throw (StopsFor.skip _ _)
      · exact Raises.pure
    · exact Raises.throw (StopsFor.skip _ _)
  · exact Raises.pure
  · exact Raises.pure
  · exact Raises.pure
  · exact Raises.pure
  · exact Raises.pure
  · exact Raises.pure
  · -- a position
    split
    · exact Raises.throw (StopsFor.skip _ _)
    · split <;> exact Raises.pure
  · split
    · exact Raises.throw (StopsFor.skip _ _)
    · exact Raises.pure
  · -- binary content
    split
    · exact Raises.pure
    · split <;> exact Raises.pure
    · exact Raises.pure
    · exact Raises.throw (StopsFor.skip _ _)
  · -- a date is written as it is, never moved to UTC
    split
    · next s =>
      obtain ⟨t, ht⟩ := Stamp.format_local s (v == .v30)
      rw [ht]
      exact Raises.pure
    · split
      · exact Raises.throw (StopsFor.skip _ _)
      · exact Raises.pure
    · split
      · exact Raises.seq (Raises.modify _) fun _ => Raises.pure
      · exact Raises.pure
    · exact Raises.throw (StopsFor.skip _ _)
  · -- a timestamp is moved to UTC, which fails out of range
    split
    · exact Raises.throw (StopsFor.skip _ _)
    · next s =>
      cases s with
      | date d => exact Raises.pure
      | dateTime t =>
        simp only [Stamp.format, if_true]
        cases ht : t.toUtc with
        | ok u => exact Raises.pure
        | error e =>
          refine Raises.throw ⟨fun e' he => ⟨t, rfl, ?_⟩, fun _ h => WriteStop.noConfusion h⟩
          cases he
          exact ht
  · -- a time zone
    split
    · exact Raises.throw (StopsFor.skip _ _)
    · split
      · split
        · exact Raises.pure
        · exact Raises.throw (StopsFor.skip _ _)
      · split <;> exact Raises.pure
      · split <;> exact Raises.pure
  · -- a place
    split
    · exact Raises.pure
    · exact Raises.pure
    · exact Raises.pure
    · exact Raises.throw (StopsFor.skip _ _)
  · -- an agent hands its card over
    split
    · exact Raises.pure
    · exact Raises.throw ⟨fun _ h => WriteStop.noConfusion h, fun _ h => by cases h; rfl⟩
    · exact Raises.throw (StopsFor.skip _ _)

theorem run'_writeText (c : Codec) (x : Value) (v : Version) :
    (∀ e, (c.writeText x v).run'.1 = .error e → ∃ t, x = .timestamp (some (.dateTime t)) ∧ t.toUtc = .error e) ∧
      ∀ child, (c.writeText x v).run'.1 = .ok (.embedded child) → x = .agent (.card child) := by
  have h := writeText_stops c x v
  unfold WriteM.run'
  rcases hrun : (ExceptT.run (c.writeText x v)).run [] with ⟨r, ws⟩
  dsimp only
  refine ⟨fun e he => ?_, fun child hc => ?_⟩
  · split at he
    · cases he
    · cases he
    · cases he
    · cases he
      exact (h [] _ ws hrun).1 _ rfl
  · split at hc
    · cases hc
    · cases hc
    · cases hc
      exact (h [] _ ws hrun).2 _ rfl
    · cases hc

end Codec

end VCard

namespace VCard

/-- A card holds a value as the value of one of its properties or orphaned
labels, or through the card an `AGENT` among them holds. -/
inductive Card.Holds : Card → Value → Prop
  | own {c : Card} {p : Property} : p ∈ c.properties ++ c.orphanedLabels → Card.Holds c p.value
  | agent {c child : Card} {p : Property} {x : Value} : p ∈ c.properties ++ c.orphanedLabels →
      p.value = .agent (.card child) → Card.Holds child x → Card.Holds c x

namespace Vcf

/-- What writing a card in a version can fail on: a timestamp the card holds
whose instant in UTC is out of range, or, in 2.1, text that a character set
cannot encode as quoted-printable. -/
def FailsOn (v : Version) (card : Card) (e : Error) : Prop :=
  (∃ t, card.Holds (.timestamp (some (.dateTime t))) ∧ t.toUtc = .error e) ∨
    (v = .v21 ∧ ∃ value charset, Encoding.quotedPrintableText value charset = .error e)

theorem liftExcept_raises {α : Type} (r : Except Error α) : Raises (liftExcept r) fun e => r = .error e := by
  cases r with
  | ok a => exact Raises.pure
  | error e => exact Raises.throw rfl

theorem liftExcept_yields {α : Type} (r : Except Error α) : Yields (liftExcept r) fun a => r = .ok a := by
  cases r with
  | ok a => exact Yields.pure rfl
  | error e => exact Yields.throw

theorem writeEmbedded_raises (w : Writer) (inner : CardWriter) (depth : Int) (fold : Bool) (prop : Property)
    (params : Params) (child : Card) {Q : Error → Prop} (h : ∀ d f, Raises (inner d f child) Q) :
    Raises (writeEmbedded w inner depth fold prop params child) Q := by
  unfold writeEmbedded
  extract_lets limit
  split
  · exact Raises.seq (Raises.modify _) fun _ => Raises.pure
  split
  · exact Raises.seq (h _ _) fun _ => Raises.pure
  · exact Raises.seq Raises.get fun _ => Raises.seq (h _ _) fun _ => Raises.seq (Raises.modify _) fun _ => Raises.pure

/-- What writing a property in a version can fail on: its value, a timestamp out
of range in UTC; in 2.1, encoding a value as quoted-printable; or, as `Q` says,
the card its `AGENT` holds. -/
def PropertyFailure (v : Version) (prop : Property) (Q : Card → Error → Prop) (e : Error) : Prop :=
  (∃ t, prop.value = .timestamp (some (.dateTime t)) ∧ t.toUtc = .error e) ∨
    (v = .v21 ∧ ∃ value charset, Encoding.quotedPrintableText value charset = .error e) ∨
    ∃ child, prop.value = .agent (.card child) ∧ Q child e

/-- A property of a card, its own or an orphaned label, fails as the card does. -/
theorem FailsOn.of_mem {v : Version} {card : Card} {p : Property} (hp : p ∈ card.properties ++ card.orphanedLabels)
    {e : Error} (h : PropertyFailure v p (FailsOn v) e) : FailsOn v card e := by
  rcases h with ⟨t, ht, he⟩ | hqp | ⟨child, hc, ⟨t, hold, he⟩ | hqp⟩
  · exact Or.inl ⟨t, ht ▸ Card.Holds.own hp, he⟩
  · exact Or.inr hqp
  · exact Or.inl ⟨t, .agent hp hc hold, he⟩
  · exact Or.inr hqp

/-- A property whose value is no timestamp and holds no card fails only on
quoted-printable, as any card may. -/
theorem FailsOn.of_value {v : Version} {card : Card} {p : Property} {Q : Card → Error → Prop} {e : Error}
    (hx : ∀ t, p.value ≠ .timestamp (some (.dateTime t))) (ha : ∀ child, p.value ≠ .agent (.card child))
    (h : PropertyFailure v p Q e) : FailsOn v card e := by
  rcases h with ⟨t, ht, _⟩ | hqp | ⟨child, hc, _⟩
  · exact absurd ht (hx t)
  · exact Or.inr hqp
  · exact absurd hc (ha child)

theorem writeProperty_raises (w : Writer) (inner : CardWriter) (depth : Int) (fold : Bool) (card : Card)
    (self : Option Nat) (prop : Property) {Q : Card → Error → Prop}
    (hinner : ∀ child, prop.value = .agent (.card child) → ∀ d f, Raises (inner d f child) (Q child)) :
    Raises (writeProperty w inner depth fold card self prop) (PropertyFailure w.version prop Q) := by
  unfold writeProperty
  extract_lets v name codec params qpParams charset qpParams' afterNote
  obtain ⟨herror, hembedded⟩ := Codec.run'_writeText codec prop.value v
  suffices h : ∀ u, Raises (afterNote u) (PropertyFailure w.version prop Q) by
    split
    · exact Raises.seq (Raises.modify _) h
    · exact h ()
  intro u
  dsimp -zeta only [afterNote]
  rcases hrun : (codec.writeText prop.value v).run' with ⟨result, messages⟩
  rw [hrun] at herror hembedded
  refine Raises.seq (Raises.forIn fun _ _ _ => Raises.seq (Raises.modify _) fun _ => Raises.pure) fun _ => ?_
  refine Raises.bind ((liftExcept_raises result).mono fun e he => Or.inl (herror e he)) (liftExcept_yields result)
    fun r hr => ?_
  cases r with
  | skip why => exact Raises.seq (Raises.modify _) fun _ => Raises.pure
  | embedded child =>
    have hchild := hembedded child hr
    exact (writeEmbedded_raises _ _ _ _ _ _ _ (hinner child hchild)).mono fun e he => Or.inr (Or.inr ⟨child, hchild, he⟩)
  | written value =>
    dsimp only
    split
    · next hqp =>
      have hv : w.version = .v21 := by simpa using (Bool.and_eq_true_iff.1 hqp).1
      exact Raises.seq ((liftExcept_raises _).mono fun e he => Or.inr (Or.inl ⟨hv, _, _, he⟩)) fun _ => Raises.pure
    · exact Raises.pure

/-- **Run lemma.** Writing a card, with its labels, orphaned labels and product
identifier, fails only on what the card holds or, in 2.1, on quoted-printable. -/
theorem writeCard_raises (w : Writer) (fuel : Nat) (depth : Int) (fold : Bool) (card : Card) :
    Raises (writeCard w fuel depth fold card) (FailsOn w.version card) := by
  induction fuel generalizing depth fold card with
  | zero => exact Raises.pure
  | succ fuel ih =>
    have hprop : ∀ p ∈ card.properties ++ card.orphanedLabels, ∀ self,
        Raises (writeProperty w (writeCard w fuel) depth fold card self p) (FailsOn w.version card) :=
      fun p hp self => (writeProperty_raises w _ depth fold card self p fun child _ d f => ih d f child).mono
        fun _ he => FailsOn.of_mem hp he
    -- a label or the product identifier is text, which holds no timestamp and no card
    have hplain : ∀ q, (∀ t, q.value ≠ .timestamp (some (.dateTime t))) → (∀ child, q.value ≠ .agent (.card child)) →
        ∀ self, Raises (writeProperty w (writeCard w fuel) depth fold card self q) (FailsOn w.version card) :=
      fun q hx ha self => (writeProperty_raises w _ depth fold card self q fun child _ d f => ih d f child).mono
        fun _ he => FailsOn.of_value hx ha he
    unfold writeCard
    extract_lets v inner out
    refine Raises.seq (Raises.forIn fun x hx acc => ?_) fun _ =>
      Raises.seq (Raises.forIn fun orphan ho acc => ?_) fun _ => ?_
    · rcases x with ⟨i, p⟩
      refine Raises.seq (hprop p (List.mem_append_left _ (List.of_mem_zip hx).2) _) fun _ => ?_
      split
      · split
        · next l hl =>
          obtain ⟨a, s, -, -, rfl⟩ := labelOf_eq_some hl
          exact Raises.seq (hplain _ (fun _ h => Value.noConfusion h) (fun _ h => Value.noConfusion h) _)
            fun _ => Raises.pure
        · exact Raises.pure
      · exact Raises.pure
    · exact Raises.seq (hprop orphan (List.mem_append_right _ ho) _) fun _ => Raises.pure
    · split
      · exact Raises.seq (hplain _ (fun _ h => Value.noConfusion h) (fun _ h => Value.noConfusion h) _)
          fun _ => Raises.pure
      · exact Raises.pure

/-- **Writing fails only on the values written**: writing cards returns, or
fails on a timestamp that one of the cards holds, or a card embedded in it,
whose instant in UTC leaves the years 1 to 9999, or, in 2.1, on a value that a
character set cannot encode as quoted-printable. -/
theorem write_fails_only_on_values (w : Writer) (cards : List Card) :
    (∃ r, write w cards = .ok r) ∨ ∃ e, write w cards = .error e ∧ ∃ c ∈ cards, FailsOn w.version c e := by
  have hrun : Raises (cards.foldlM (fun out c => do
      return out ++ (← writeCard w (nesting c + 1) 0 true c)) "" : EmitM String)
      fun e => ∃ c ∈ cards, FailsOn w.version c e :=
    Raises.foldlM fun _ c hc => Raises.seq ((writeCard_raises w _ 0 true c).mono fun e he => ⟨c, hc, he⟩)
      fun _ => Raises.pure
  unfold write
  dsimp only
  split
  · exact Or.inl ⟨_, rfl⟩
  · next e ws h => exact Or.inr ⟨e, rfl, hrun [] e ws h⟩

/-! ### A value that cannot be encoded fails the writing -/

/-- Encoding in a character set whose name holds a NUL character fails. -/
theorem quotedPrintableText_nul (value : String) {charset : String} (h : charset.contains (Char.ofNat 0) = true) :
    Encoding.quotedPrintableText value charset = .error .embeddedNull := by
  simp [Encoding.quotedPrintableText, Charset.encode, Charset.textCodec, h, Encoding.charsetError]

/-- In 2.1, a value with a line break that its character set cannot encode as
quoted-printable fails the writing of its property: the failure is not made a
warning. -/
theorem writeProperty_unencodable (w : Writer) (inner : CardWriter) (depth : Int) (fold : Bool) (card : Card)
    (self : Option Nat) (prop : Property) {value charset : String} {e : Error} (hv : w.version = .v21)
    (hwrite : ((w.index.codecForProperty prop).writeText prop.value w.version).run'.1 = .ok (.written value))
    (hbreak : value.contains '\n' = true)
    (hcharset : (((w.index.codecForProperty prop).prepareParams prop self w.version (some card)).setValueType
      ((w.index.codecForProperty prop).valueParameter prop.value w.version) |>.set "ENCODING"
        (some "QUOTED-PRINTABLE")).get? "CHARSET" = some charset)
    (hne : charset.isEmpty = false) (hq : Encoding.quotedPrintableText value charset = .error e) :
    Fails (writeProperty w inner depth fold card self prop) e := by
  unfold writeProperty
  extract_lets v name codec params qpParams charset' qpParams' afterNote
  suffices h : ∀ u, Fails (afterNote u) e by
    split
    · exact Fails.bind_right (Raises.modify _) (fun _ _ _ _ => trivial) fun u _ => h u
    · exact h ()
  intro u
  dsimp -zeta only [afterNote]
  rcases hrun : (codec.writeText prop.value v).run' with ⟨result, messages⟩
  have hres : result = .ok (.written value) := (congrArg Prod.fst hrun).symm.trans hwrite
  subst hres
  refine Fails.bind_right (Raises.forIn fun _ _ _ => Raises.seq (Raises.modify _) fun _ => Raises.pure)
    (fun _ _ _ _ => trivial) fun _ _ => ?_
  refine Fails.bind_right ((liftExcept_raises _).mono fun _ h => by simp at h) (liftExcept_yields _)
    fun r hr => ?_
  cases hr
  dsimp only
  -- the value is written quoted-printable, in the character set its parameters name
  rw [if_pos (by simp [v, hv, hbreak])]
  have hc : charset' = charset := by
    have hq' : qpParams.get? "CHARSET" = some charset := hcharset
    simp only [charset', hq', hne]
    rfl
  rw [hc, hq]
  exact (show Fails (liftExcept (.error e) : EmitM String) e from Fails.throw).bind _

/-- A card whose first property fails to be written fails to be written. -/
theorem writeCard_fails_first (w : Writer) (fuel : Nat) (depth : Int) (fold : Bool) (card : Card) {p : Property}
    {rest : List Property} {e : Error} (hprops : card.properties = p :: rest)
    (h : Fails (writeProperty w (writeCard w fuel) depth fold card (some 0) p) e) :
    Fails (writeCard w (fuel + 1) depth fold card) e := by
  unfold writeCard
  extract_lets v inner out
  refine Fails.bind ?_ _
  rw [hprops, List.length_cons, List.range_succ_eq_map, List.zip_cons_cons, List.forIn_cons]
  exact (h.bind _).bind _

theorem write_singleton_fails (w : Writer) (card : Card) {e : Error}
    (h : Fails (writeCard w (nesting card + 1) 0 true card) e) : write w [card] = .error e := by
  obtain ⟨ws, hws⟩ := (h.bind fun text => (pure ("" ++ text) : EmitM String)) []
  unfold write
  simp only [List.foldlM_cons, List.foldlM_nil, bind_pure]
  simp only [hws]

/-- A text codec writes a text escaped for the version. -/
theorem run'_writeText_text (ix : CodecIndex) {p : Property} {name s : String} (v : Version)
    (hcodec : ix.codecForProperty p = Codec.text name) (hvalue : p.value = .text (some s)) :
    ((ix.codecForProperty p).writeText p.value v).run'.1 = .ok (.written (escapeFor v s)) := by
  rw [hcodec, hvalue]
  rfl

/-- A 2.1 note holding a line break, in a character set whose name holds a NUL
character. -/
def nulNote : Property := Property.make "NOTE" (.text (some "a\nb")) (Params.ofList [("CHARSET", "a\x00b")])

/-- A 2.1 card of that note alone. -/
def nulNoteCard : Card := { version := .v21, properties := [nulNote] }

/-- **A value its character set cannot encode fails the whole writing**: the
note of `nulNoteCard`, a text as the note's codec writes it, is written
quoted-printable in 2.1, in a character set whose name holds a NUL character,
and writing the card fails. -/
theorem nulCharset_write_fails : write { version := .v21 } [nulNoteCard] = .error .embeddedNull := by
  have hescaped : escapeFor .v21 "a\nb" = "a\nb" := by decide +kernel
  have hcodec : defaultIndex.codecForProperty nulNote = Codec.text "NOTE" := by decide +kernel
  have hwrite := hescaped ▸ run'_writeText_text defaultIndex .v21 hcodec (rfl : nulNote.value = _)
  apply write_singleton_fails
  rw [show nesting nulNoteCard = 1 by decide +kernel]
  refine writeCard_fails_first _ _ _ _ _ rfl ?_
  exact writeProperty_unencodable _ _ _ _ _ _ _ rfl hwrite (by simp) (show _ = some "a\x00b" by decide +kernel) rfl
    (quotedPrintableText_nul _ (by simp))

end Vcf

end VCard
