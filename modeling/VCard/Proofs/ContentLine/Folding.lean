import VCard.Vcf.Write
import VCard.Proofs.ContentLine.Unfold
import VCard.Proofs.ContentLine.Codec
/-! When folding is transparent.

The writer puts a content line on the page folded (`Writer.line`): cut into
pieces, each on a physical line of its own, every piece but the first after a
space. Read on its own, the folded text gives the line back as one logical line
exactly when the joiner glues every later piece onto it (`joinsAlone`): no later
piece may be blank, since a blank physical line ends the logical line and is
dropped, and before any later piece the line read so far must not end in `=`
while mentioning `quoted-printable`, since the joiner would then take the next
physical line whole, after a line feed. `foldLine_reads_back_iff` says this for
every line that holds no line break and starts with a name character, at every
line length from 1 on.

The two ways of failing leave marks that no later physical line erases: a line
feed in a line read (`Joiner.HasLineFeed`), or a finished logical line that is
only a part of the whole, since finished lines are never taken back
(`Joiner.finished_prefix_run`). -/
namespace VCard.ContentLine

open Text

/-! ### The pieces of a folded line -/

theorem consFirst_tail (c : Char) (ps : List (List Char)) : (consFirst c ps).tail = ps.tail := by
  cases ps <;> rfl

theorem mem_consFirst {c : Char} {ps : List (List Char)} {p : List Char} (h : p ∈ consFirst c ps) :
    (∃ q, p = c :: q) ∨ p ∈ ps.tail := by
  cases ps with
  | nil =>
    simp only [consFirst, List.mem_singleton] at h
    exact .inl ⟨[], h⟩
  | cons q qs =>
    simp only [consFirst, List.mem_cons] at h
    rcases h with rfl | h
    · exact .inl ⟨q, rfl⟩
    · exact .inr h

/-- Every piece that starts at a cut holds a character: a cut is made only
before a character. -/
theorem ne_nil_of_mem_tail_foldPieces (width : Int) :
    ∀ (cs : List Char) (counter : Int), ∀ p ∈ (foldPieces width cs counter).tail, p ≠ []
  | [], _, p, hp => by simp [foldPieces] at hp
  | c :: rest, counter, p, hp => by
    unfold foldPieces at hp
    dsimp only at hp
    split at hp
    · rcases mem_consFirst hp with ⟨q, rfl⟩ | hp
      · exact List.cons_ne_nil _ _
      · exact ne_nil_of_mem_tail_foldPieces width rest _ p hp
    · rw [consFirst_tail] at hp
      exact ne_nil_of_mem_tail_foldPieces width rest _ p hp

theorem ne_nil_of_mem_tail_linePieces (width : Int) (line : String) :
    ∀ p ∈ (linePieces width line).tail, p ≠ [] := by
  unfold linePieces
  split
  · simp
  · exact ne_nil_of_mem_tail_foldPieces width _ _

theorem utf8Size_ascii {c : Char} (h : c.toNat < 0x80) : Encoding.utf8Size c = 1 := by
  rw [Encoding.utf8Size, Encoding.encodeUtf8Char_ascii h, List.length_singleton]

/-- A line that starts with an ASCII character keeps it at the head of its first
piece at every width from 1 on: one byte always fits. -/
theorem linePieces_cons_of_ascii {width : Int} (hw : 1 ≤ width) {line : String} {c : Char} {cs : List Char}
    (hl : line.toList = c :: cs) (hc : c.toNat < 0x80) : ∃ r qs, linePieces width line = (c :: r) :: qs := by
  unfold linePieces
  split
  · exact ⟨cs, [], by rw [hl]⟩
  · rw [hl, foldPieces]
    have hfits : ¬ (0 + (Encoding.utf8Size c : Int) > width) := by
      rw [utf8Size_ascii hc]
      omega
    simp only [hfits, if_false]
    obtain ⟨p, ps, hps⟩ := List.exists_cons_of_ne_nil (foldPieces_ne_nil width cs (0 + (Encoding.utf8Size c : Int)))
    rw [hps]
    exact ⟨p, ps, rfl⟩

/-- The physical lines of a folded line are its pieces, every piece but the
first after a space. -/
theorem physicalLines_foldLine (width : Int) {line : String} (hu : Unbroken line.toList) :
    physicalLines (foldLine width line) = pieceLines (linePieces width line) := by
  rw [← String.ofList_toList (s := foldLine width line), foldLine_toList]
  apply physicalLines_crlfJoin
  apply unbroken_of_mem_pieceLines
  rw [flatten_linePieces]
  exact hu

/-! ### What the joiner never takes back -/

namespace Joiner

/-- A line feed in the line held or in a finished line. -/
def HasLineFeed (j : Joiner) : Prop := '\n' ∈ j.buffer ∨ ∃ l ∈ j.finished, '\n' ∈ l.text.toList

theorem finished_prefix_flush (j : Joiner) : j.finished <+: j.flush.finished := by
  unfold flush
  split
  · exact List.prefix_refl _
  · exact List.prefix_append _ _

/-- **Step lemma.** A physical line either leaves the finished lines as they
were and extends the line held, or finishes the line held. -/
theorem feed_grows (j : Joiner) (n : Nat) (line : List Char) :
    ((j.feed n line).finished = j.finished ∧ j.buffer <+: (j.feed n line).buffer) ∨
      (j.feed n line).finished = j.flush.finished := by
  unfold feed
  split
  · exact .inr rfl
  · dsimp only
    split
    · exact .inl ⟨rfl, List.prefix_append _ _⟩
    · split
      · split
        · exact .inl ⟨rfl, List.prefix_append _ _⟩
        · split
          · exact .inr rfl
          · next hb =>
            -- an empty line held is a prefix of anything
            have he : j.buffer = [] := by simpa using hb
            exact .inl ⟨rfl, he ▸ List.nil_prefix⟩
      · exact .inl ⟨rfl, List.prefix_refl _⟩

theorem finished_prefix_feed (j : Joiner) (n : Nat) (line : List Char) :
    j.finished <+: (j.feed n line).finished := by
  rcases feed_grows j n line with ⟨h, -⟩ | h
  · rw [h]
  · rw [h]
    exact finished_prefix_flush j

/-- **Run lemma.** Finished lines are never taken back. -/
theorem finished_prefix_run (j : Joiner) (lines : List (List Char × Nat)) : j.finished <+: (j.run lines).finished := by
  induction lines generalizing j with
  | nil => exact List.prefix_refl _
  | cons l ls ih => exact (finished_prefix_feed j l.2 l.1).trans (ih (j.feed l.2 l.1))

/-- Finishing the line held keeps a line feed among the finished lines. -/
theorem exists_lineFeed_flush {j : Joiner} (h : j.HasLineFeed) : ∃ l ∈ j.flush.finished, '\n' ∈ l.text.toList := by
  rcases h with h | ⟨l, hl, hn⟩
  · have hne : j.buffer.isEmpty = false := by
      cases hb : j.buffer with
      | nil => rw [hb] at h; cases h
      | cons _ _ => rfl
    refine ⟨⟨String.ofList j.buffer, j.start⟩, ?_, by simpa using h⟩
    simp [flush, hne]
  · exact ⟨l, (finished_prefix_flush j).subset hl, hn⟩

theorem HasLineFeed.feed {j : Joiner} (h : j.HasLineFeed) (n : Nat) (line : List Char) : (j.feed n line).HasLineFeed := by
  rcases feed_grows j n line with ⟨hfin, hbuf⟩ | hfin
  · rcases h with h | ⟨l, hl, hn⟩
    · exact .inl (hbuf.subset h)
    · exact .inr ⟨l, hfin ▸ hl, hn⟩
  · exact .inr (hfin ▸ exists_lineFeed_flush h)

theorem HasLineFeed.run {j : Joiner} (h : j.HasLineFeed) (lines : List (List Char × Nat)) : (j.run lines).HasLineFeed := by
  induction lines generalizing j with
  | nil => exact h
  | cons l ls ih => exact ih (h.feed l.2 l.1)

/-- A blank physical line finishes the line held. -/
theorem feed_blank (j : Joiner) (n : Nat) {line : List Char} (h : isBlankLine line = true) :
    (j.feed n line).finished = j.flush.finished := by
  simp [feed, h]

/-- A physical line that is due as a soft-break continuation joins the line held
after a line feed. -/
theorem feed_continued (j : Joiner) (n : Nat) {line : List Char} (h : isBlankLine line = false)
    (hc : j.continuation = true) : (j.feed n line).buffer = j.buffer ++ '\n' :: line := by
  simp [feed, h, hc]

end Joiner

/-! ### A folded line read on its own -/

/-- No name character is blank; checked on all of ASCII, where every name
character lies. -/
theorem nameChar_not_blank_ascii :
    (List.range 0x80).all (fun n => !isNameChar (Char.ofNat n) || !isBlank (Char.ofNat n)) = true := by
  decide

theorem isBlank_eq_false_of_isNameChar {c : Char} (h : isNameChar c = true) : isBlank c = false := by
  have hc := List.all_eq_true.mp nameChar_not_blank_ascii c.toNat (List.mem_range.mpr (toNat_lt_of_isNameChar h))
  rw [Char.ofNat_toNat, h] at hc
  simpa using hc

/-- Whether the pieces after the line read so far are glued onto it when no other
line follows: before each of them the line must not ask for a soft-break
continuation, and none may be blank. -/
def joinsAlone : List Char → List (List Char) → Bool
  | _, [] => true
  | acc, p :: ps => !wantsContinuation acc && !isBlankLine (' ' :: p) && joinsAlone (acc ++ p) ps

/-- Whether a line folded at a width reads back as itself when it stands alone. -/
def unfoldsAlone (width : Int) (line : String) : Bool :=
  match linePieces width line with
  | p :: ps => joinsAlone p ps
  | [] => true

/-- Pieces glued on one by one extend the line held and finish nothing. -/
theorem run_joinsAlone : ∀ (ps : List (List Char)) (j : Joiner) (ns : List Nat),
    joinsAlone j.buffer ps = true → j.continuation = wantsContinuation j.buffer → ns.length = ps.length →
      (j.run ((ps.map (' ' :: ·)).zip ns)).finished = j.finished ∧
        (j.run ((ps.map (' ' :: ·)).zip ns)).buffer = j.buffer ++ ps.flatten
  | [], j, _, _, _, _ => by simp [Joiner.run]
  | p :: ps, j, [], _, _, hns => by simp at hns
  | p :: ps, j, n :: ns, h, hc, hns => by
    simp only [joinsAlone, Bool.and_eq_true, Bool.not_eq_eq_eq_not, Bool.not_true] at h
    obtain ⟨⟨hwants, hblank⟩, hrest⟩ := h
    have hstep := Joiner.feed_space j n p (hc.trans hwants) hblank
    have ih := run_joinsAlone ps (j.feed n (' ' :: p)) ns (by rw [hstep]; exact hrest) (by rw [hstep])
      (by simpa using hns)
    simp only [List.map_cons, List.zip_cons_cons, Joiner.run, List.foldl_cons] at ih ⊢
    rw [ih.1, ih.2, hstep]
    exact ⟨rfl, by simp⟩

/-- Pieces that are not glued on leave a mark: a line feed in a finished line, or
a first finished line shorter than the line held and the pieces together. -/
theorem run_breaks : ∀ (ps : List (List Char)) (j : Joiner) (ns : List Nat),
    j.finished = [] → j.buffer ≠ [] → j.continuation = wantsContinuation j.buffer → (∀ p ∈ ps, p ≠ []) →
    joinsAlone j.buffer ps = false → ns.length = ps.length →
      (∃ l ∈ (j.run ((ps.map (' ' :: ·)).zip ns)).flush.finished, '\n' ∈ l.text.toList) ∨
        ∃ l rest, (j.run ((ps.map (' ' :: ·)).zip ns)).flush.finished = l :: rest ∧
          l.text.length < j.buffer.length + ps.flatten.length
  | [], _, _, _, _, _, _, h, _ => by simp [joinsAlone] at h
  | p :: ps, j, [], _, _, _, _, _, hns => by simp at hns
  | p :: ps, j, n :: ns, hfin, hbuf, hc, hne, h, hns => by
    have hrun : (j.run (((p :: ps).map (' ' :: ·)).zip (n :: ns))) =
        (j.feed n (' ' :: p)).run ((ps.map (' ' :: ·)).zip ns) := rfl
    rw [hrun]
    by_cases hblank : isBlankLine (' ' :: p) = true
    · -- a blank piece finishes the line held, which is shorter than the whole
      have hflush : (j.feed n (' ' :: p)).finished = [⟨String.ofList j.buffer, j.start⟩] := by
        have hb : j.buffer.isEmpty = false := by simpa using hbuf
        rw [Joiner.feed_blank j n hblank]
        simp [Joiner.flush, hb, hfin]
      have hpre : [⟨String.ofList j.buffer, j.start⟩] <+:
          ((j.feed n (' ' :: p)).run ((ps.map (' ' :: ·)).zip ns)).flush.finished := by
        rw [← hflush]
        exact (Joiner.finished_prefix_run _ _).trans (Joiner.finished_prefix_flush _)
      obtain ⟨rest, hrest⟩ := hpre
      refine .inr ⟨_, rest, hrest.symm, ?_⟩
      have hp : 0 < p.length := List.length_pos_iff.mpr (hne p List.mem_cons_self)
      simp only [List.flatten_cons, List.length_append, String.length_ofList]
      omega
    · by_cases hwants : wantsContinuation j.buffer = true
      · -- the piece is taken whole after a line feed, which stays
        have hlf : (j.feed n (' ' :: p)).HasLineFeed := by
          left
          rw [Joiner.feed_continued j n (Bool.eq_false_iff.mpr hblank) (hc.trans hwants)]
          simp
        exact .inl (Joiner.exists_lineFeed_flush (hlf.run _))
      · -- the piece is glued on, and a later one fails
        have hblank' : isBlankLine (' ' :: p) = false := Bool.eq_false_iff.mpr hblank
        have hwants' : wantsContinuation j.buffer = false := Bool.eq_false_iff.mpr hwants
        have hstep := Joiner.feed_space j n p (hc.trans hwants') hblank'
        have hrest : joinsAlone (j.buffer ++ p) ps = false := by
          simpa [joinsAlone, hblank', hwants'] using h
        have ih := run_breaks ps (j.feed n (' ' :: p)) ns (by rw [hstep]; exact hfin) (by rw [hstep]; exact fun h => hbuf (List.append_eq_nil_iff.mp h).1)
          (by rw [hstep]) (fun q hq => hne q (List.mem_cons_of_mem _ hq)) (by rw [hstep]; exact hrest)
          (by simpa using hns)
        rw [hstep] at ih ⊢
        rcases ih with ih | ⟨l, rest, hl, hlen⟩
        · exact .inl ih
        · refine .inr ⟨l, rest, hl, ?_⟩
          simp only [List.length_append, List.flatten_cons] at hlen ⊢
          omega

/-- **A folded line reads back as itself exactly when its pieces join alone.**
Written by the writer at a line length of 1 or more, a line without line breaks
that starts with a name character is read, on its own, as exactly one logical
line equal to it if and only if no piece after the first is blank and the line
read so far asks for no soft-break continuation before any of them. -/
theorem foldLine_reads_back_iff (w : Vcf.Writer) (hL : 1 ≤ w.settings.lineLength) {line : String}
    (hu : Unbroken line.toList) (hhead : ∃ c cs, line.toList = c :: cs ∧ isNameChar c = true) :
    (logicalLines (w.line true line)).map (·.text) = [line] ↔ unfoldsAlone w.settings.lineLength line = true := by
  obtain ⟨c, cs, hl, hc⟩ := hhead
  have hline : w.line true line = foldLine w.settings.lineLength line := by
    have hL0 : (w.settings.lineLength != 0) = true := by simp only [bne_iff_ne, ne_eq]; omega
    simp only [Vcf.Writer.line, Bool.true_and, hL0, if_true]
  obtain ⟨r, qs, hps⟩ := linePieces_cons_of_ascii hL hl (toNat_lt_of_isNameChar hc)
  have hq : ∀ q ∈ qs, q ≠ [] := by
    simpa [hps] using ne_nil_of_mem_tail_linePieces w.settings.lineLength line
  have hflat : line.toList = (c :: r) ++ qs.flatten := by
    rw [← flatten_linePieces w.settings.lineLength line, hps, List.flatten_cons]
  -- the first physical line starts the logical line
  obtain ⟨htexts, hbuf, hcont⟩ := Joiner.feed_first {} 1 r rfl (isBlank_eq_false_of_isNameChar hc)
  have hfin : (({} : Joiner).feed 1 (c :: r)).finished = [] := by
    simpa [Joiner.texts, Joiner.flush] using htexts
  have hlog : (logicalLines (w.line true line)).map (·.text) =
      ((({} : Joiner).feed 1 (c :: r)).run ((qs.map (' ' :: ·)).zip (List.range' 2 qs.length))).flush.texts := by
    rw [hline, logicalLines, physicalLines_foldLine _ hu, hps]
    simp [pieceLines, List.range'_succ, Joiner.run, Joiner.texts]
  have halone : unfoldsAlone w.settings.lineLength line = joinsAlone (c :: r) qs := by
    simp only [unfoldsAlone, hps]
  rw [hlog, halone]
  constructor
  · intro h
    by_contra hj
    rcases run_breaks qs _ (List.range' 2 qs.length) hfin (by rw [hbuf]; exact List.cons_ne_nil _ _) (by rw [hcont, hbuf]) hq
        (by rw [hbuf]; simpa using hj) (by simp) with ⟨l, hl', hn⟩ | ⟨l, rest, hl', hlen⟩
    · -- a logical line with a line feed, which the line does not hold
      have hmem : l.text ∈ [line] := by
        rw [← h]
        exact List.mem_map_of_mem hl'
      rw [List.mem_singleton.mp hmem] at hn
      exact (hu '\n' hn).2 rfl
    · -- a first logical line that is only a part of the line
      rw [Joiner.texts, hl', List.map_cons, List.cons_eq_cons] at h
      have hlen' := congrArg String.length h.1
      rw [hbuf] at hlen
      rw [← String.length_toList (s := line), hflat] at hlen'
      simp only [List.length_append] at hlen'
      omega
  · intro hj
    obtain ⟨hf, hb⟩ := run_joinsAlone qs _ (List.range' 2 qs.length) (by rw [hbuf]; exact hj) (by rw [hcont, hbuf]) (by simp)
    have hne : (((({} : Joiner).feed 1 (c :: r)).run ((qs.map (' ' :: ·)).zip (List.range' 2 qs.length))).buffer).isEmpty = false := by
      rw [hb, hbuf]
      rfl
    rw [Joiner.texts_flush, hne, Joiner.texts, hf, hfin, hb, hbuf, ← hflat]
    simp

/-- A note line folded at 6 after the first letter of its value, `NOTE:a` and
`b`, reads back whole. -/
theorem noteLine_reads_back_at_six :
    1 ≤ ({ version := .v30, settings := { lineLength := 6 } } : Vcf.Writer).settings.lineLength ∧
      Unbroken (String.ofList ['N', 'O', 'T', 'E', ':', 'a', 'b']).toList ∧
      (∃ c cs, (String.ofList ['N', 'O', 'T', 'E', ':', 'a', 'b']).toList = c :: cs ∧ isNameChar c = true) ∧
      ((logicalLines (({ version := .v30, settings := { lineLength := 6 } } : Vcf.Writer).line true
          (String.ofList ['N', 'O', 'T', 'E', ':', 'a', 'b']))).map (·.text) =
          [String.ofList ['N', 'O', 'T', 'E', ':', 'a', 'b']] ↔
        unfoldsAlone 6 (String.ofList ['N', 'O', 'T', 'E', ':', 'a', 'b']) = true) := by
  have hu : Unbroken (String.ofList ['N', 'O', 'T', 'E', ':', 'a', 'b']).toList := by
    rw [String.toList_ofList]
    simp
  have hhead : ∃ c cs, (String.ofList ['N', 'O', 'T', 'E', ':', 'a', 'b']).toList = c :: cs ∧ isNameChar c = true :=
    ⟨'N', _, String.toList_ofList, rfl⟩
  exact ⟨by decide, hu, hhead, foldLine_reads_back_iff _ (by decide) hu hhead⟩

-- a piece of blanks after the first is dropped, and the line comes back cut
example : unfoldsAlone 6 "NOTE:  " = false := by decide +kernel

/-- **A blank piece is lost.** Folded at 6, a note of two blanks is written as
`NOTE: ` and a piece of one blank, which the reader drops as a blank line: the
line comes back with one blank. -/
theorem blankPiece_dropped :
    (Vcf.write { version := .v30, settings := { lineLength := 6 } }
        [{ version := .v30, properties := [Property.make "NOTE" (.text (some "  "))] }]).toOption =
      some (foldLine 6 "BEGIN:VCARD" ++ foldLine 6 "VERSION:3.0" ++ foldLine 6 "NOTE:  " ++
        foldLine 6 "END:VCARD", []) ∧
      (logicalLines (({ version := .v30, settings := { lineLength := 6 } } : Vcf.Writer).line true "NOTE:  ")).map
        (·.text) = ["NOTE: "] := by
  constructor <;> decide +kernel

end VCard.ContentLine
