import VCard.Proofs.Vcf.Step
import VCard.Proofs.ContentLine.Codec
/-! Where reading stops.

Which cards a text holds is decided by its lines alone: `BEGIN:VCARD` opens a
card, `END:VCARD` closes the innermost card open and is ignored when none is
(`openAfter`). An outermost card runs from its `BEGIN` to the `END` that closes
it (`untilClosed`), and `outline` counts the outermost cards closed and the
cards left open at the end.

Reading follows the lines the same way: each line changes the frame stack as
`openAfter` says (`lineStep_frames`), so `readNext` stops exactly where
`untilClosed` does (`readNext_frames`). It fails in two ways only: a card still
open when the lines run out, and a quoted-printable value that decoding in its
character set fails on (`Error.OfDecoding`).

`read_outcome`: reading a text gives one card per outermost card of its lines
and leaves none open; it fails because a card is left open, or on decoding a
value. A failure of decoding is not turned into a warning: a text whose one card
closes fails when a value names a character set holding a NUL character
(`nulCharset_read_fails`). -/
namespace VCard

/-- A failure of decoding a quoted-printable value in a character set. -/
def Error.OfDecoding (e : Error) : Prop :=
  ∃ value charset, Encoding.decodeQuotedPrintableText value charset = .error e

namespace Vcf

open ContentLine

/-! ### The cards of lines -/

/-- Whether a line is `BEGIN:VCARD`, in any case and with blanks around the
value. -/
def opensCard (l : LogicalLine) : Bool :=
  match parse l.text with
  | some p => Text.upper p.name == "BEGIN" && Text.upper (Text.trim p.value) == "VCARD"
  | none => false

/-- Whether a line is `END:VCARD`, in any case and with blanks around the value. -/
def closesCard (l : LogicalLine) : Bool :=
  match parse l.text with
  | some p => Text.upper p.name == "END" && Text.upper (Text.trim p.value) == "VCARD"
  | none => false

/-- The number of cards open after a line, with `n` open before it. -/
def openAfter (n : Nat) (l : LogicalLine) : Nat :=
  if opensCard l then n + 1 else if closesCard l then n - 1 else n

/-- Follows lines with `n` cards open: the lines after the one that closes the
last of them, or the number still open when the lines run out. -/
def untilClosed : Nat → List LogicalLine → List LogicalLine ⊕ Nat
  | n, [] => .inr n
  | n, l :: rest => if n = 1 ∧ closesCard l = true then .inl rest else untilClosed (openAfter n l) rest

/-- Outermost cards closed, and cards open. -/
structure Outline where
  cards : Nat
  unclosed : Nat
  deriving DecidableEq, Repr

/-- The outline after one more line. -/
def Outline.step (o : Outline) (l : LogicalLine) : Outline :=
  if o.unclosed = 1 ∧ closesCard l = true then ⟨o.cards + 1, 0⟩ else ⟨o.cards, openAfter o.unclosed l⟩

/-- The outermost cards of lines, and the cards left open at their end. -/
def outline (lines : List LogicalLine) : Outline := lines.foldl Outline.step ⟨0, 0⟩

/-- Up to the line that closes the last card open, the outline counts no card. -/
theorem foldl_step_untilClosed (c n : Nat) (lines : List LogicalLine) :
    lines.foldl Outline.step ⟨c, n⟩ =
      match untilClosed n lines with
      | .inl rest => rest.foldl Outline.step ⟨c + 1, 0⟩
      | .inr k => ⟨c, k⟩ := by
  induction lines generalizing n with
  | nil => rfl
  | cons l rest ih =>
    by_cases h : n = 1 ∧ closesCard l = true
    · simp only [List.foldl_cons, Outline.step, untilClosed, h, and_self, if_true]
    · simp only [List.foldl_cons, Outline.step, untilClosed, h, if_false]
      exact ih _

theorem foldl_step_of_closed {c n : Nat} {lines rest : List LogicalLine} (h : untilClosed n lines = .inl rest) :
    lines.foldl Outline.step ⟨c, n⟩ = rest.foldl Outline.step ⟨c + 1, 0⟩ := by
  rw [foldl_step_untilClosed, h]

theorem foldl_step_of_open {c n k : Nat} {lines : List LogicalLine} (h : untilClosed n lines = .inr k) :
    lines.foldl Outline.step ⟨c, n⟩ = ⟨c, k⟩ := by
  rw [foldl_step_untilClosed, h]

theorem length_lt_of_untilClosed {n : Nat} {lines rest : List LogicalLine} (h : untilClosed n lines = .inl rest) :
    rest.length < lines.length := by
  induction lines generalizing n with
  | nil => cases h
  | cons l ls ih =>
    unfold untilClosed at h
    split at h
    · cases h
      exact Nat.lt_succ_self _
    · exact Nat.lt_succ_of_lt (ih h)

example : outline (logicalLines "BEGIN:VCARD\r\nBEGIN:VCARD\r\nEND:VCARD\r\nEND:VCARD\r\nBEGIN:VCARD\r\n") = ⟨1, 1⟩ := by
  decide +kernel

/-! ### How each line changes the frame stack -/

theorem begin_frames (settings : Settings) (depth : Int) (stack : List Frame) (line : Nat) :
    Yields («begin» settings depth stack line) fun stack' => stack'.length = stack.length + 1 := by
  cases stack with
  | nil => exact Yields.pure rfl
  | cons parent rest =>
    exact (begin_cons settings depth parent rest line).mono fun _ ⟨_, h, _⟩ => by simp [h]

/-- Closing the outermost card gives it; closing a card inside one gives none
and pops its frame. -/
theorem end_frames (stack : List Frame) (line : Nat) (hne : stack ≠ []) :
    Yields («end» stack line) fun r =>
      match r.1 with
      | some _ => stack.length = 1
      | none => r.2.length = stack.length - 1 ∧ stack.length ≠ 1 := by
  match stack, hne with
  | [f], _ => exact (end_single f line).mono fun r hr => by simp [hr]
  | f :: g :: others, _ =>
    refine (end_cons_cons f g others line).mono fun r ⟨h1, card, h2, _⟩ => ?_
    simp [h1, h2]

/-- A value returned after a step taken on a condition. -/
theorem Raises.ite_pure {α : Type} {Q : Error → Prop} {x : α} (c : Prop) [Decidable c] {m : ReadM Unit}
    (hm : Raises m Q) : Raises (if c then m >>= fun _ => Pure.pure x else Pure.pure x) Q := by
  split
  · exact Raises.seq hm fun _ => Raises.pure
  · exact Raises.pure

theorem begin_raises {Q : Error → Prop} (settings : Settings) (depth : Int) (stack : List Frame) (line : Nat) :
    Raises («begin» settings depth stack line) Q := by
  unfold «begin»
  split
  · exact Raises.pure
  · dsimp only
    split
    · exact Raises.seq (Raises.modify _) fun _ => Raises.pure
    split
    · exact Raises.seq (Raises.modify _) fun _ => Raises.pure
    · exact Raises.pure

theorem end_raises {Q : Error → Prop} (stack : List Frame) (line : Nat) : Raises («end» stack line) Q := by
  unfold «end»
  split
  · exact Raises.pure
  · dsimp only
    split
    · refine Raises.seq (Raises.modify _) fun _ => ?_
      split <;> exact Raises.pure
    · split <;> exact Raises.pure

/-! ### Failures of decoding -/

/-- Decoding a quoted-printable value fails only as decoding in its character
set does. -/
theorem decodeQuotedPrintable_raises (value : String) (params : Params) (name : String) (line : Nat) :
    Raises (decodeQuotedPrintable value params name line) Error.OfDecoding := by
  unfold decodeQuotedPrintable
  extract_lets charset finish afterDecoded
  have hfinish : ∀ text, Raises (finish text) Error.OfDecoding := fun _ => Raises.pure
  suffices h : ∀ decoded, Raises (afterDecoded decoded) Error.OfDecoding by
    split
    · exact Raises.seq Raises.pure h
    · next e he => exact Raises.seq (Raises.throw ⟨_, _, he⟩) h
  intro decoded
  dsimp -zeta only [afterDecoded]
  split
  · exact Raises.seq Raises.pure hfinish
  · exact Raises.seq (Raises.modify _) fun _ => Raises.seq Raises.pure hfinish
  · exact Raises.seq (Raises.modify _) fun _ => Raises.seq Raises.pure hfinish

/-- A content line fails to read only on decoding its value, or as the reader of
an embedded card does. -/
theorem readProperty_raises (index : CodecIndex) (settings : Settings) (embedded : EmbeddedReader)
    (hemb : ∀ t d name line, Raises (embedded t d name line) Error.OfDecoding) (frame : Frame) (parsed : Parsed)
    (line : Nat) :
    Raises (readProperty index settings embedded frame parsed line) Error.OfDecoding := by
  unfold readProperty
  refine Raises.seq Raises.get fun s => ?_
  extract_lets params quoted codec addProperty position afterDecoding
  suffices h : ∀ vp, Raises (afterDecoding vp) Error.OfDecoding by
    split
    · exact Raises.seq (decodeQuotedPrintable_raises _ _ _ _) h
    · exact Raises.seq Raises.pure h
  rintro ⟨value, params⟩
  dsimp -zeta only [afterDecoding]
  extract_lets erased tail
  suffices h : ∀ explicit, Raises (tail explicit) Error.OfDecoding by
    split
    · split
      · exact Raises.seq Raises.pure h
      · exact Raises.seq Raises.get fun _ => Raises.seq (Raises.modify _) fun _ => Raises.seq Raises.pure h
    · exact Raises.seq Raises.pure h
  intro explicit
  dsimp -zeta only [tail]
  extract_lets dt
  refine Raises.seq Raises.get fun s' => ?_
  extract_lets r noteWarnings
  refine Raises.seq (Raises.modify _) fun _ => ?_
  have hnote : Raises noteWarnings Error.OfDecoding := Raises.forM fun _ => Raises.modify _
  cases r.reading with
  | value x =>
    refine Raises.seq hnote fun _ => ?_
    split
    · split <;> exact Raises.pure
    · exact Raises.pure
  | skip why => exact Raises.seq (Raises.modify _) fun _ => Raises.pure
  | cannotParse why => exact Raises.seq (Raises.modify _) fun _ => Raises.pure
  | embedded text =>
    refine Raises.seq hnote fun _ => ?_
    cases text with
    | none => exact Raises.pure
    | some t =>
      refine Raises.seq (hemb _ _ _ _) fun child => ?_
      cases child <;> exact Raises.pure

/-! ### Reading line by line -/

section Lines

variable (index : CodecIndex) (settings : Settings) (embedded : EmbeddedReader) (depth : Int)

theorem opensCard_closesCard_of_parse {l : LogicalLine} {p : Parsed} (hp : parse l.text = some p) :
    opensCard l = (Text.upper p.name == "BEGIN" && Text.upper (Text.trim p.value) == "VCARD") ∧
      closesCard l = (Text.upper p.name == "END" && Text.upper (Text.trim p.value) == "VCARD") := by
  simp [opensCard, closesCard, hp]

/-- **Step lemma.** A line changes the number of frames as `openAfter` says,
and gives a card exactly when it closes the only card open. -/
theorem lineStep_frames (l : LogicalLine) (stack : List Frame) :
    Yields (lineStep index settings embedded depth l stack) fun r =>
      match r.1 with
      | some _ => stack.length = 1 ∧ closesCard l = true
      | none => ¬(stack.length = 1 ∧ closesCard l = true) ∧ r.2.length = openAfter stack.length l := by
  unfold lineStep
  split
  · next hp =>
    have ho : opensCard l = false := by simp [opensCard, hp]
    have hc : closesCard l = false := by simp [closesCard, hp]
    exact Yields.ite_pure _ _ ⟨by simp [hc], by simp [openAfter, ho, hc]⟩
  · next parsed hp =>
    obtain ⟨ho, hc⟩ := opensCard_closesCard_of_parse hp
    dsimp only
    split
    · next hbegin =>
      have hname : Text.upper parsed.name = "BEGIN" := beq_iff_eq.1 hbegin
      have hend : (Text.upper parsed.name == "END") = false := by simp [hname]
      have hclose : ¬(stack.length = 1 ∧ closesCard l = true) := by simp [hc, hend]
      split
      · next hcard =>
        refine Yields.bind (begin_frames settings depth stack l.number) fun s hs => Yields.pure ⟨hclose, ?_⟩
        simp [openAfter, ho, hbegin, hcard, hs]
      · next hcard =>
        refine Yields.bind (Yields.pure rfl) fun s hs => Yields.pure ⟨hclose, ?_⟩
        simp [openAfter, ho, hc, hbegin, hend, hcard, hs]
    split
    · next hbegin hend =>
      split
      · next hskip =>
        refine Yields.pure ⟨?_, ?_⟩
        · simp only [hc, hend, Bool.true_and]
          rintro ⟨h1, hcard⟩
          simp [hcard, ← List.length_eq_zero_iff, h1] at hskip
        · simp only [Bool.or_eq_true, Bool.not_eq_eq_eq_not, Bool.not_true, List.isEmpty_iff] at hskip
          rcases hskip with hcard | rfl
          · simp [openAfter, ho, hc, hbegin, hcard]
          · simp [openAfter, ho, hbegin]
      · next hskip =>
        simp only [Bool.or_eq_true, Bool.not_eq_eq_eq_not, Bool.not_true, List.isEmpty_iff, not_or] at hskip
        obtain ⟨hcard, hne⟩ := hskip
        refine (end_frames stack l.number hne).mono fun r hr => ?_
        rcases r with ⟨_ | c, s⟩
        · obtain ⟨hlen, h1⟩ := hr
          exact ⟨fun h => h1 h.1, by simp [openAfter, ho, hc, hbegin, hend, hcard, hlen]⟩
        · exact ⟨hr, by simp [hc, hend, hcard]⟩
    · next hbegin hend =>
      have hsame : ¬(stack.length = 1 ∧ closesCard l = true) ∧ ∀ s : List Frame, s.length = stack.length →
          s.length = openAfter stack.length l := by
        refine ⟨by simp [hc, hend], fun s hs => by simp [openAfter, ho, hc, hbegin, hend, hs]⟩
      split
      · exact Yields.pure ⟨hsame.1, hsame.2 _ rfl⟩
      · split
        · split
          · exact Yields.pure ⟨hsame.1, hsame.2 _ rfl⟩
          · exact Yields.seq fun _ => Yields.pure ⟨hsame.1, hsame.2 _ rfl⟩
        · exact Yields.seq fun _ => Yields.pure ⟨hsame.1, hsame.2 _ rfl⟩

theorem lineStep_raises (hemb : ∀ t d name line, Raises (embedded t d name line) Error.OfDecoding)
    (l : LogicalLine) (stack : List Frame) :
    Raises (lineStep index settings embedded depth l stack) Error.OfDecoding := by
  unfold lineStep
  split
  · split
    · exact Raises.seq (Raises.modify _) fun _ => Raises.pure
    · exact Raises.pure
  · dsimp only
    split
    · split
      · exact Raises.seq (begin_raises _ _ _ _) fun _ => Raises.pure
      · exact Raises.seq Raises.pure fun _ => Raises.pure
    split
    · split
      · exact Raises.pure
      · exact end_raises _ _
    · split
      · exact Raises.pure
      · split
        · split
          · exact Raises.pure
          · exact Raises.seq (Raises.modify _) fun _ => Raises.pure
        · exact Raises.seq (readProperty_raises index settings embedded hemb _ _ _) fun _ => Raises.pure

/-- **Run lemma.** `readNext` stops where `untilClosed` does: with a card and
the lines after the one that closes the last card open, or with no card when
the lines run out and no card is open. -/
theorem readNext_frames (lines : List LogicalLine) (stack : List Frame) (last : Nat) :
    Yields (readNext index settings embedded depth lines stack last) fun r =>
      untilClosed stack.length lines = match r.1 with
        | some _ => .inl r.2
        | none => .inr 0 := by
  induction lines generalizing stack last with
  | nil =>
    rw [readNext]
    split
    · next h => exact Yields.pure (by simp_all [untilClosed])
    · exact Yields.throw
  | cons l rest ih =>
    rw [readNext_cons]
    refine Yields.bind (lineStep_frames index settings embedded depth l stack) fun r hr => ?_
    rcases r with ⟨_ | c, stack'⟩
    · obtain ⟨hclose, hlen⟩ := hr
      refine (ih stack' l.number).mono fun r' h' => ?_
      rw [untilClosed, if_neg hclose, ← hlen]
      exact h'
    · exact Yields.pure (by rw [untilClosed, if_pos hr])

/-- **Run lemma.** `readNext` fails only on decoding a value, or when the lines
run out with cards open. -/
theorem readNext_raises (hemb : ∀ t d name line, Raises (embedded t d name line) Error.OfDecoding)
    (lines : List LogicalLine) (stack : List Frame) (last : Nat) :
    Raises (readNext index settings embedded depth lines stack last) fun e =>
      e.OfDecoding ∨ (∃ k, untilClosed stack.length lines = .inr (k + 1)) ∧
        ∃ n, e = .framing (some n) "vCard is missing END:VCARD" := by
  induction lines generalizing stack last with
  | nil =>
    rw [readNext]
    split
    · exact Raises.pure
    · next h =>
      refine Raises.throw (Or.inr ⟨⟨stack.length - 1, ?_⟩, _, rfl⟩)
      have : stack.length ≠ 0 := by simpa [List.isEmpty_iff] using h
      simp only [untilClosed]
      congr 1
      omega
  | cons l rest ih =>
    rw [readNext_cons]
    refine Raises.bind ((lineStep_raises index settings embedded depth hemb l stack).mono fun _ => Or.inl)
      (lineStep_frames index settings embedded depth l stack) fun r hr => ?_
    rcases r with ⟨_ | c, stack'⟩
    · obtain ⟨hclose, hlen⟩ := hr
      refine (ih stack' l.number).mono fun e he => ?_
      rw [untilClosed, if_neg hclose, ← hlen]
      exact he
    · exact Raises.pure

end Lines

/-! ### Reading a text -/

/-- An embedded text fails to read only on decoding a value: a card it leaves
open is reported as a warning. -/
theorem readEmbedded_raises (index : CodecIndex) (settings : Settings) (fuel : Nat) (t : String) (d : Int)
    (name : String) (line : Nat) :
    Raises (readEmbedded index settings fuel t d name line) Error.OfDecoding := by
  induction fuel generalizing t d name line with
  | zero => exact Raises.pure
  | succ fuel ih =>
    unfold readEmbedded
    split
    · exact Raises.seq (Raises.modify _) fun _ => Raises.pure
    refine Raises.seq Raises.get fun outer => ?_
    extract_lets reading
    have hread := readNext_raises index settings _ d ih (logicalLines t) [] 0
    rcases hrun : StateT.run (ExceptT.run reading) { types := outer.types } with ⟨r, inner⟩
    dsimp only
    split
    · exact Raises.seq Raises.pure fun _ => Raises.seq (Raises.set _) fun _ => Raises.ite_pure _ (Raises.modify _)
    · exact Raises.seq Raises.pure fun _ => Raises.seq (Raises.set _) fun _ => Raises.ite_pure _ (Raises.modify _)
    · -- any failure but a card left open is one of decoding
      next e hframing =>
      refine Raises.seq (Raises.throw ?_) fun _ => Raises.seq (Raises.set _) fun _ => Raises.ite_pure _ (Raises.modify _)
      rcases hread _ _ _ hrun with h | ⟨_, n, rfl⟩
      · exact h
      · exact (hframing _ _ rfl).elim

/-- Reading cards one after another follows the outline of the lines: from `c`
cards counted before, each card read counts one more, and a failure other than
one of decoding leaves cards open. -/
theorem readCards_outline (index : CodecIndex) (settings : Settings) (embedded : EmbeddedReader)
    (hemb : ∀ t d name line, Raises (embedded t d name line) Error.OfDecoding) (fuel : Nat) (lines : List LogicalLine)
    (hfuel : lines.length < fuel) (c : Nat) :
    Yields (readCards index settings embedded fuel lines)
        (fun cards => lines.foldl Outline.step ⟨c, 0⟩ = ⟨c + cards.length, 0⟩) ∧
      Raises (readCards index settings embedded fuel lines) fun e =>
        e.OfDecoding ∨ (lines.foldl Outline.step ⟨c, 0⟩).unclosed ≠ 0 ∧
          ∃ n, e = .framing (some n) "vCard is missing END:VCARD" := by
  induction fuel generalizing lines c with
  | zero => exact absurd hfuel (Nat.not_lt_zero _)
  | succ fuel ih =>
    rw [readCards]
    have hframes := readNext_frames index settings embedded 0 lines [] 0
    have hraises := readNext_raises index settings embedded 0 hemb lines [] 0
    simp only [List.length_nil] at hframes hraises
    refine ⟨Yields.bind hframes fun r hr => ?_, Raises.bind (hraises.mono fun e he => ?_) hframes fun r hr => ?_⟩
    · split
      · -- a card closes: the rest of the lines are read from one more card counted
        next card rest =>
        dsimp only at hr
        have hnext := ih rest (by have := length_lt_of_untilClosed hr; omega) (c + 1)
        refine Yields.bind hnext.1 fun cards hcards => Yields.pure ?_
        rw [foldl_step_of_closed hr, hcards, List.length_cons]
        congr 1
        omega
      · dsimp only at hr
        exact Yields.pure (foldl_step_of_open hr)
    · rcases he with h | ⟨⟨k, hk⟩, hn⟩
      · exact Or.inl h
      · refine Or.inr ⟨?_, hn⟩
        rw [foldl_step_of_open hk]
        exact Nat.succ_ne_zero k
    · split
      · next card rest =>
        dsimp only at hr
        have hnext := ih rest (by have := length_lt_of_untilClosed hr; omega) (c + 1)
        refine Raises.seq (hnext.2.mono fun e he => ?_) fun _ => Raises.pure
        rwa [foldl_step_of_closed hr]
      · exact Raises.pure

/-- **Reading a text follows its outline**: it gives one card per outermost card
of its lines and leaves none open; it fails only with a card left open, or on
decoding a value. -/
theorem read_follows_outline (index : CodecIndex) (settings : Settings) (text : String) :
    Yields (read index settings text) (fun cards => outline (logicalLines text) = ⟨cards.length, 0⟩) ∧
      Raises (read index settings text) fun e =>
        e.OfDecoding ∨ (outline (logicalLines text)).unclosed ≠ 0 ∧
          ∃ n, e = .framing (some n) "vCard is missing END:VCARD" := by
  have h := readCards_outline index settings _ (readEmbedded_raises index settings (text.length + 1))
    ((logicalLines text).length + 1) (logicalLines text) (Nat.lt_succ_self _) 0
  exact ⟨h.1.mono fun cards hc => by rw [outline, hc, Nat.zero_add], h.2⟩

/-! ### A value that fails to decode fails the reading -/

/-- Decoding in a character set whose name holds a NUL character fails. -/
theorem decodeQuotedPrintableText_nul (value : String) {charset : String}
    (h : charset.contains (Char.ofNat 0) = true) :
    Encoding.decodeQuotedPrintableText value charset = .error .embeddedNull := by
  have hdecode : ∀ lenient bs, Charset.decode charset lenient bs = .error .embeddedNull := by
    intro lenient bs
    simp [Charset.decode, Charset.textCodec, h]
  simp only [Encoding.decodeQuotedPrintableText, hdecode]
  rfl

theorem decodeQuotedPrintable_fails {value charset : String} {params : Params} {e : Error} (name : String)
    (line : Nat) (hcharset : params.get? "CHARSET" = some charset) (hne : charset.isEmpty = false)
    (hd : Encoding.decodeQuotedPrintableText value charset = .error e) :
    Fails (decodeQuotedPrintable value params name line) e := by
  intro s
  refine ⟨s, ?_⟩
  simp only [decodeQuotedPrintable, hcharset, hne, Bool.false_eq_true, if_false, hd]
  rfl

/-- A content line whose quoted-printable value fails to decode in the character
set it names fails the whole reading: the failure is not made a warning. -/
theorem readProperty_undecodable (index : CodecIndex) (settings : Settings) (embedded : EmbeddedReader)
    (frame : Frame) (parsed : Parsed) (line : Nat) {charset : String} {e : Error}
    (hquoted : ∀ types, ((parameters settings types parsed.params frame.card.version).get? "ENCODING").any
      (Text.lower · == "quoted-printable") = true)
    (hcharset : ∀ types, (parameters settings types parsed.params frame.card.version).get? "CHARSET" = some charset)
    (hne : charset.isEmpty = false) (hd : Encoding.decodeQuotedPrintableText parsed.value charset = .error e) :
    Fails (readProperty index settings embedded frame parsed line) e := by
  unfold readProperty
  refine Fails.bind_right Raises.get (fun _ _ _ _ => trivial) fun s _ => ?_
  extract_lets params quoted codec addProperty position afterDecoding
  have hq : quoted = true := hquoted s.types
  rw [if_pos hq]
  exact (decodeQuotedPrintable_fails _ _ (hcharset s.types) hne hd).bind _

/-- A content line inside a card that fails to read fails `readNext`. -/
theorem readNext_property_fails (index : CodecIndex) (settings : Settings) (embedded : EmbeddedReader) (depth : Int)
    {l : LogicalLine} {parsed : Parsed} (hl : parse l.text = some parsed)
    (hkey : Text.upper parsed.name ∉ ["BEGIN", "END", "VERSION"]) {frame : Frame} {e : Error}
    (hread : Fails (readProperty index settings embedded frame parsed l.number) e)
    (rest : List LogicalLine) (others : List Frame) (last : Nat) :
    Fails (readNext index settings embedded depth (l :: rest) (frame :: others) last) e := by
  simp only [List.mem_cons, List.not_mem_nil, or_false, not_or] at hkey
  obtain ⟨hb, he, hv⟩ := hkey
  have hb' : (Text.upper parsed.name == "BEGIN") = false := by simpa using hb
  have he' : (Text.upper parsed.name == "END") = false := by simpa using he
  have hv' : (Text.upper parsed.name == "VERSION") = false := by simpa using hv
  rw [readNext, hl]
  simp only [hb', he', hv', Bool.false_eq_true, if_false]
  exact hread.bind _

/-- A text whose one card closes, and whose reading fails on the character set
of a quoted-printable note: a name holding a NUL character. -/
theorem nulCharset_read_fails :
    outline (logicalLines
        "BEGIN:VCARD\r\nVERSION:2.1\r\nNOTE;ENCODING=QUOTED-PRINTABLE;CHARSET=a\x00b:abc\r\nEND:VCARD\r\n") = ⟨1, 0⟩ ∧
      Fails (read defaultIndex {}
        "BEGIN:VCARD\r\nVERSION:2.1\r\nNOTE;ENCODING=QUOTED-PRINTABLE;CHARSET=a\x00b:abc\r\nEND:VCARD\r\n")
        .embeddedNull := by
  have hlines : logicalLines
      "BEGIN:VCARD\r\nVERSION:2.1\r\nNOTE;ENCODING=QUOTED-PRINTABLE;CHARSET=a\x00b:abc\r\nEND:VCARD\r\n" =
      [⟨"BEGIN:VCARD", 0⟩, ⟨"VERSION:2.1", 2⟩, ⟨"NOTE;ENCODING=QUOTED-PRINTABLE;CHARSET=a\x00b:abc", 3⟩,
        ⟨"END:VCARD", 4⟩] := by
    decide +kernel
  have hparse : parse "NOTE;ENCODING=QUOTED-PRINTABLE;CHARSET=a\x00b:abc" =
      some ⟨none, "NOTE", [("ENCODING", ["QUOTED-PRINTABLE"]), ("CHARSET", ["a\x00b"])], "abc"⟩ := by
    decide +kernel
  -- the parameters are the same whatever data types the session holds
  have hparams : ∀ types, parameters {} types [("ENCODING", ["QUOTED-PRINTABLE"]), ("CHARSET", ["a\x00b"])] .v21 =
      ⟨[("ENCODING", "QUOTED-PRINTABLE"), ("CHARSET", "a\x00b")]⟩ := by
    intro types
    rw [parameters_eq _ _ _ _ (by decide) (by decide +kernel)]
    decide +kernel
  refine ⟨by rw [hlines]; decide +kernel, ?_⟩
  unfold read
  rw [hlines, readCards]
  refine Fails.bind ?_ _
  refine (readNext_begin _ _ _ _ rfl _ _).fails ?_
  refine (readNext_version _ _ _ _ (v := .v21) (by decide +kernel) _ _ _ _).fails ?_
  refine readNext_property_fails _ _ _ _ hparse (by decide +kernel) ?_ _ _ _
  refine readProperty_undecodable _ _ _ _ _ _ (fun types => ?_) (fun types => ?_) (rfl : "a\x00b".isEmpty = false)
    (decodeQuotedPrintableText_nul _ (by simp))
  · rw [hparams]
    decide +kernel
  · rw [hparams]
    decide +kernel

end Vcf

end VCard
