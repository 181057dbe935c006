import VCard.ContentLine.Logical
import VCard.ContentLine.Fold
import VCard.Proofs.Text.Escape
/-! Written lines read back whole.

A writer puts each content line on its own, folded at the line length: the line
is cut into pieces (`linePieces`), written one per physical line, every piece
but the first after a space, and each physical line ends in CR LF
(`foldLine_toList`). Reading splits the text into its physical lines again
(`physicalLines_crlfJoin`) and joins them into logical lines (`Joiner.feed`).

A line comes back whole when its pieces cannot be mistaken for anything else:
its first character is no blank, no later piece is blank (a blank physical line
ends the logical line), and no part of the line read so far ends in `=` and
mentions `quoted-printable` (the joiner would take the next physical line into
it). `unfoldsWhole` checks this. `ReadsAs` says of physical lines that the joiner
reads them as one logical line, and `logicalLines_crlfJoin` that text made of
such groups of lines reads back as their logical lines, in order; so lines folded
one after the other read back as themselves (`logicalLines_foldLines`). -/
namespace VCard.ContentLine

open Text

/-! ### Physical lines -/

/-- Lines, each ended by CR LF. -/
def crlfJoin (ls : List (List Char)) : List Char := ls.flatMap (· ++ ['\r', '\n'])

theorem splitOn_crlfJoin {ls : List (List Char)} (h : ∀ l ∈ ls, '\n' ∉ l) :
    (crlfJoin ls).splitOn '\n' = ls.map (· ++ ['\r']) ++ [[]] := by
  induction ls with
  | nil => rfl
  | cons l ls ih =>
    have hl : '\n' ∉ l ++ ['\r'] := by simpa using h l List.mem_cons_self
    have hsplit : crlfJoin (l :: ls) = (l ++ ['\r']) ++ '\n' :: crlfJoin ls := by simp [crlfJoin]
    rw [hsplit, List.splitOn_append_cons_self_of_not_mem hl, ih (fun m hm => h m (List.mem_cons_of_mem _ hm))]
    rfl

/-- A line read back with its CR dropped. -/
theorem dropLineEnd_cr {l : List Char} (h : Unbroken l) :
    ((l ++ ['\r']).reverse.dropWhile (fun c => c == '\r' || c == '\n')).reverse = l := by
  rw [List.reverse_append, List.reverse_singleton, List.singleton_append, List.dropWhile_cons_of_pos (by simp)]
  cases hr : l.reverse with
  | nil => simpa using hr
  | cons c r =>
    have hc : c ∈ l := by simpa using (List.mem_reverse.mp (hr ▸ List.mem_cons_self))
    rw [List.dropWhile_cons_of_neg (by simp [(h c hc).1, (h c hc).2]), ← hr, List.reverse_reverse]

theorem getLast?_crlfJoin {ls : List (List Char)} (h : ls ≠ []) : (crlfJoin ls).getLast? = some '\n' := by
  rw [← List.dropLast_concat_getLast h, crlfJoin, List.flatMap_append]
  simp [List.getLast?_append]

/-- **Lines ended by CR LF are the physical lines of their text.** -/
theorem physicalLines_crlfJoin {ls : List (List Char)} (h : ∀ l ∈ ls, Unbroken l) :
    physicalLines (String.ofList (crlfJoin ls)) = ls := by
  have hsplit := splitOn_crlfJoin fun l hl => fun hn => (h l hl '\n' hn).2 rfl
  unfold physicalLines
  simp only [String.toList_ofList, hsplit]
  cases ls with
  | nil => rfl
  | cons l ls =>
    simp only [getLast?_crlfJoin (List.cons_ne_nil l ls), beq_self_eq_true, Bool.true_or, if_true, List.dropLast_concat, List.map_map]
    conv => rhs; rw [← List.map_id (l :: ls)]
    apply List.map_congr_left
    intro m hm
    exact dropLineEnd_cr (h m hm)

/-! ### Folding -/

/-- Puts a character at the front of the first piece. -/
def consFirst (c : Char) : List (List Char) → List (List Char)
  | [] => [[c]]
  | p :: ps => (c :: p) :: ps

/-- The pieces folding cuts a line into, given the bytes on the current line so
far: a new piece starts wherever `foldChars` breaks the line. -/
def foldPieces (width : Int) : List Char → Int → List (List Char)
  | [], _ => [[]]
  | c :: rest, counter =>
    let size : Int := Encoding.utf8Size c
    if counter + size > width then [] :: consFirst c (foldPieces width rest (1 + size))
    else consFirst c (foldPieces width rest (counter + size))

theorem consFirst_ne_nil (c : Char) (ps : List (List Char)) : consFirst c ps ≠ [] := by
  cases ps <;> simp [consFirst]

theorem foldPieces_ne_nil (width : Int) (cs : List Char) (counter : Int) : foldPieces width cs counter ≠ [] := by
  cases cs with
  | nil => simp [foldPieces]
  | cons c rest =>
    unfold foldPieces
    dsimp only
    split
    · simp
    · exact consFirst_ne_nil _ _

theorem intercalate_consFirst (sep : List Char) (c : Char) {ps : List (List Char)} (h : ps ≠ []) :
    sep.intercalate (consFirst c ps) = c :: sep.intercalate ps := by
  obtain ⟨p, ps, rfl⟩ := List.exists_cons_of_ne_nil h
  cases ps <;> simp [consFirst, List.intercalate_cons_cons]

theorem flatten_consFirst (c : Char) (ps : List (List Char)) : (consFirst c ps).flatten = c :: ps.flatten := by
  cases ps <;> simp [consFirst]

/-- Folding puts CR LF and a space between the pieces. -/
theorem foldChars_eq (width : Int) (cs : List Char) (counter : Int) :
    foldChars width cs counter = ['\r', '\n', ' '].intercalate (foldPieces width cs counter) := by
  induction cs generalizing counter with
  | nil => rfl
  | cons c rest ih =>
    unfold foldChars foldPieces
    dsimp only
    split
    · rw [List.intercalate_cons_of_ne_nil (consFirst_ne_nil _ _),
        intercalate_consFirst _ _ (foldPieces_ne_nil _ _ _), ih]
      rfl
    · rw [intercalate_consFirst _ _ (foldPieces_ne_nil _ _ _), ih]

/-- The pieces together are the line. -/
theorem flatten_foldPieces (width : Int) (cs : List Char) (counter : Int) :
    (foldPieces width cs counter).flatten = cs := by
  induction cs generalizing counter with
  | nil => rfl
  | cons c rest ih =>
    unfold foldPieces
    dsimp only
    split <;> simp [flatten_consFirst, ih]

/-- The pieces a line is written in at a width: itself when it is shorter,
else the pieces folding cuts it into. -/
def linePieces (width : Int) (line : String) : List (List Char) :=
  if (line.length : Int) < width then [line.toList] else foldPieces width line.toList 0

/-- The physical lines of pieces: the first as it is, each later one after a space. -/
def pieceLines : List (List Char) → List (List Char)
  | [] => []
  | p :: ps => p :: ps.map (' ' :: ·)

theorem flatten_linePieces (width : Int) (line : String) : (linePieces width line).flatten = line.toList := by
  unfold linePieces
  split
  · simp
  · exact flatten_foldPieces _ _ _

theorem intercalate_crlf (p : List Char) (ps : List (List Char)) :
    ['\r', '\n', ' '].intercalate (p :: ps) ++ ['\r', '\n'] = crlfJoin (pieceLines (p :: ps)) := by
  induction ps generalizing p with
  | nil => simp [crlfJoin, pieceLines]
  | cons q qs ih =>
    rw [List.intercalate_cons_cons, List.append_assoc, List.append_assoc, ih q]
    simp [crlfJoin, pieceLines]

/-- **A folded line is its pieces, each on a physical line of its own.** -/
theorem foldLine_toList (width : Int) (line : String) :
    (foldLine width line).toList = crlfJoin (pieceLines (linePieces width line)) := by
  unfold foldLine linePieces
  split
  · simp [crlfJoin, pieceLines]
  · obtain ⟨p, ps, hps⟩ := List.exists_cons_of_ne_nil (foldPieces_ne_nil width line.toList 0)
    rw [String.toList_append, String.toList_ofList, foldChars_eq, hps]
    exact intercalate_crlf p ps

theorem unbroken_of_mem_pieceLines {ps : List (List Char)} (h : Unbroken ps.flatten) :
    ∀ l ∈ pieceLines ps, Unbroken l := by
  cases ps with
  | nil => simp [pieceLines]
  | cons p ps =>
    simp only [pieceLines, List.mem_cons, List.mem_map]
    rintro l (rfl | ⟨q, hq, rfl⟩)
    · exact fun c hc => h c (by simp [hc])
    · intro c hc
      rcases List.mem_cons.mp hc with rfl | hc
      · decide
      · exact h c (List.mem_flatten.mpr ⟨q, by simp [hq], hc⟩)

/-! ### Joining physical lines -/

namespace Joiner

/-- Feeds numbered physical lines, one after the other. -/
def run (j : Joiner) (lines : List (List Char × Nat)) : Joiner := lines.foldl (fun j l => j.feed l.2 l.1) j

theorem run_append (j : Joiner) (a b : List (List Char × Nat)) : j.run (a ++ b) = (j.run a).run b :=
  List.foldl_append

/-- The texts of the finished logical lines. -/
def texts (j : Joiner) : List String := j.finished.map (·.text)

theorem texts_flush (j : Joiner) :
    j.flush.texts = j.texts ++ (if j.buffer.isEmpty then [] else [String.ofList j.buffer]) := by
  unfold flush texts
  split <;> simp_all

/-- A physical line that starts with no blank starts a logical line, finishing
the one held. -/
theorem feed_first (j : Joiner) (n : Nat) {c : Char} (r : List Char) (hj : j.continuation = false)
    (hc : isBlank c = false) :
    (j.feed n (c :: r)).texts = j.flush.texts ∧ (j.feed n (c :: r)).buffer = c :: r ∧
      (j.feed n (c :: r)).continuation = wantsContinuation (c :: r) := by
  have hline : isBlankLine (c :: r) = false := by simp [isBlankLine, hc]
  -- a space and a tab are blanks, so the line continues nothing
  have hsp : (c == ' ' || c == '\t') = false := by
    cases hsp : (c == ' ' || c == '\t') with
    | false => rfl
    | true =>
      simp only [Bool.or_eq_true, beq_iff_eq] at hsp
      rcases hsp with rfl | rfl <;> simp [isBlank] at hc
  by_cases hb : j.buffer.isEmpty = true
  · have hflush : j.flush = j := by simp [flush, hb]
    simp [feed, hline, hj, hsp, hb, hflush, texts]
  · simp [feed, hline, hj, hsp, hb, texts]

/-- A physical line after a space that is not blank goes on with the logical line. -/
theorem feed_space (j : Joiner) (n : Nat) (p : List Char) (hj : j.continuation = false)
    (hp : isBlankLine (' ' :: p) = false) :
    j.feed n (' ' :: p) = { j with buffer := j.buffer ++ p, continuation := wantsContinuation (j.buffer ++ p) } := by
  simp [feed, hp, hj]

end Joiner

/-- Physical lines the joiner reads as one logical line `text`, whatever their
numbers: from any joiner that expects no continuation, it finishes the line it
held, then holds `text` and again expects no continuation. -/
def ReadsAs (lines : List (List Char)) (text : List Char) : Prop :=
  text ≠ [] ∧ ∀ (j : Joiner) (ns : List Nat), j.continuation = false → ns.length = lines.length →
    (j.run (lines.zip ns)).texts = j.flush.texts ∧ (j.run (lines.zip ns)).buffer = text ∧
      (j.run (lines.zip ns)).continuation = false

/-- Whether pieces after the line read so far keep it going: none is blank, and
none leaves the line asking for a soft-break continuation. -/
def continuesWhole : List Char → List (List Char) → Bool
  | _, [] => true
  | acc, p :: ps => !isBlankLine (' ' :: p) && !wantsContinuation (acc ++ p) && continuesWhole (acc ++ p) ps

/-- Whether pieces read back as one logical line: the first starts with no blank
and asks for no continuation, and the rest keep the line going. -/
def piecesWhole : List (List Char) → Bool
  | (c :: r) :: ps => !isBlank c && !wantsContinuation (c :: r) && continuesWhole (c :: r) ps
  | _ => false

/-- Whether a line written at a width reads back whole. -/
def unfoldsWhole (width : Int) (line : String) : Bool := piecesWhole (linePieces width line)

/-- The pieces after the first, each after its space, extend the line held. -/
theorem run_continues : ∀ (ps : List (List Char)) (j : Joiner) (ns : List Nat),
    continuesWhole j.buffer ps = true → j.continuation = false → ns.length = ps.length →
      (j.run ((ps.map (' ' :: ·)).zip ns)).texts = j.texts ∧
        (j.run ((ps.map (' ' :: ·)).zip ns)).buffer = j.buffer ++ ps.flatten ∧
        (j.run ((ps.map (' ' :: ·)).zip ns)).continuation = false
  | [], j, _, _, hj, _ => by simp [Joiner.run, hj]
  | p :: ps, j, [], _, _, hns => by simp at hns
  | p :: ps, j, n :: ns, hc, hj, hns => by
    simp only [continuesWhole, Bool.and_eq_true, Bool.not_eq_eq_eq_not, Bool.not_true] at hc
    obtain ⟨⟨hblank, hwants⟩, hrest⟩ := hc
    have hstep := Joiner.feed_space j n p hj hblank
    have ih := run_continues ps (j.feed n (' ' :: p)) ns (by rw [hstep]; exact hrest) (by rw [hstep]; exact hwants)
      (by simpa using hns)
    simp only [List.map_cons, List.zip_cons_cons, Joiner.run, List.foldl_cons] at ih ⊢
    rw [hstep] at ih ⊢
    refine ⟨ih.1, ?_, ih.2.2⟩
    rw [ih.2.1]
    simp

/-- Pieces that pass `piecesWhole` are read as their concatenation. -/
theorem readsAs_pieces {ps : List (List Char)} (h : piecesWhole ps = true) : ReadsAs (pieceLines ps) ps.flatten := by
  match ps, h with
  | (c :: r) :: qs, h =>
    simp only [piecesWhole, Bool.and_eq_true, Bool.not_eq_eq_eq_not, Bool.not_true] at h
    obtain ⟨⟨hc, hwants⟩, hrest⟩ := h
    refine ⟨by simp, fun j ns hj hns => ?_⟩
    obtain ⟨n, ns, rfl⟩ : ∃ n ns', ns = n :: ns' := List.exists_cons_of_length_eq_add_one (by simpa [pieceLines] using hns)
    obtain ⟨htexts, hbuf, hcont⟩ := Joiner.feed_first j n r hj hc
    have hcont' : (j.feed n (c :: r)).continuation = false := by rw [hcont, hwants]
    have hrun := run_continues qs (j.feed n (c :: r)) ns (by rw [hbuf]; exact hrest) hcont'
      (by simpa [pieceLines] using hns)
    simp only [pieceLines, List.zip_cons_cons, Joiner.run, List.foldl_cons] at hrun ⊢
    rw [hrun.1, htexts, hrun.2.1, hbuf]
    exact ⟨rfl, by simp, hrun.2.2⟩

/-- **A line that `unfoldsWhole` is read back as itself from its folded form.** -/
theorem readsAs_foldLine {width : Int} {line : String} (h : unfoldsWhole width line = true) :
    ReadsAs (pieceLines (linePieces width line)) line.toList := by
  rw [← flatten_linePieces width line]
  exact readsAs_pieces h

/-- Groups of physical lines, each read as one logical line, are read as those
lines in order. -/
theorem run_groups : ∀ (groups : List (List (List Char) × List Char)), (∀ g ∈ groups, ReadsAs g.1 g.2) →
    ∀ (j : Joiner) (ns : List Nat), j.continuation = false → ns.length = (groups.flatMap (·.1)).length →
      (j.run ((groups.flatMap (·.1)).zip ns)).flush.texts = j.flush.texts ++ groups.map (String.ofList ·.2)
  | [], _, j, ns, _, _ => by simp [Joiner.run]
  | g :: gs, h, j, ns, hj, hns => by
    have hg := (h g List.mem_cons_self).2
    have hlen : (ns.take g.1.length).length = g.1.length := by
      simp only [List.length_take]
      simp only [List.flatMap_cons, List.length_append] at hns
      omega
    obtain ⟨htexts, hbuf, hcont⟩ := hg j (ns.take g.1.length) hj hlen
    have ih := run_groups gs (fun x hx => h x (List.mem_cons_of_mem _ hx)) (j.run (g.1.zip (ns.take g.1.length)))
      (ns.drop g.1.length) hcont
      (by simp only [List.length_drop, List.flatMap_cons, List.length_append] at hns ⊢; omega)
    have hne : (g.2.isEmpty) = false := by simpa using (h g List.mem_cons_self).1
    rw [List.flatMap_cons, ← List.take_append_drop g.1.length ns, List.zip_append hlen.symm, Joiner.run_append, ih,
      Joiner.texts_flush, htexts, hbuf]
    simp [hne]

/-- **Text made of groups of physical lines, each read as one logical line, reads
back as those logical lines.** -/
theorem logicalLines_crlfJoin (groups : List (List (List Char) × List Char)) (h : ∀ g ∈ groups, ReadsAs g.1 g.2)
    (hu : ∀ g ∈ groups, ∀ l ∈ g.1, Unbroken l) :
    (logicalLines (String.ofList (crlfJoin (groups.flatMap (·.1))))).map (·.text) = groups.map (String.ofList ·.2) := by
  have hlines : physicalLines (String.ofList (crlfJoin (groups.flatMap (·.1)))) = groups.flatMap (·.1) := by
    apply physicalLines_crlfJoin
    simp only [List.mem_flatMap]
    rintro l ⟨g, hg, hl⟩
    exact hu g hg l hl
  have hrun := run_groups groups h {} (List.range' 1 (groups.flatMap (·.1)).length) rfl (by simp)
  have hlog : (logicalLines (String.ofList (crlfJoin (groups.flatMap (·.1))))).map (·.text) =
      (({} : Joiner).run ((groups.flatMap (·.1)).zip (List.range' 1 (groups.flatMap (·.1)).length))).flush.texts := by
    simp only [logicalLines, hlines]
    rfl
  rw [hlog, hrun]
  rfl

/-- **Lines folded one after the other read back as those lines**, when none
holds a line break and each unfolds whole. -/
theorem logicalLines_foldLines (width : Int) (lines : List String) (hw : ∀ l ∈ lines, unfoldsWhole width l = true)
    (hu : ∀ l ∈ lines, Unbroken l.toList) :
    (logicalLines (String.ofList (lines.flatMap fun l => (foldLine width l).toList))).map (·.text) = lines := by
  have h := logicalLines_crlfJoin (lines.map fun l => (pieceLines (linePieces width l), l.toList))
    (by
      simp only [List.mem_map]
      rintro g ⟨l, hl, rfl⟩
      exact readsAs_foldLine (hw l hl))
    (by
      simp only [List.mem_map]
      rintro g ⟨l, hl, rfl⟩
      apply unbroken_of_mem_pieceLines
      rw [flatten_linePieces]
      exact hu l hl)
  have htext : crlfJoin ((lines.map fun l => (pieceLines (linePieces width l), l.toList)).flatMap (·.1)) =
      lines.flatMap fun l => (foldLine width l).toList := by
    simp only [crlfJoin, List.flatMap_map, List.flatMap_assoc, foldLine_toList]
  rw [htext] at h
  simpa [List.map_map, Function.comp_def] using h

end VCard.ContentLine
