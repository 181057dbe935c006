import VCard.Proofs.ContentLine.Folding
import VCard.Proofs.Vcf.Writing
import VCard.Proofs.Codec.Preference
/-! How long written lines are.

Folding cuts a content line by the UTF-8 octets each character takes, so every
physical line it writes has at most as many octets as the line length allows,
from a line length of 5 on: a cut starts the count again at one, for the space,
and no character takes more than four octets. A line shorter than the line
length, counted in characters, is written unfolded, whatever its octets, and in
2.1 a content line holding a quoted-printable value is written unfolded too.

`written_lines_fit` says this of everything the writer writes: the text is made
of blocks, each ending in CR LF, whose physical lines are the text's, and every
block's lines fit the line length (`Fits`) unless the block is such a
quoted-printable line (`Writer.QuotedLine`). The blocks are an invariant of the
writer's output (`Writer.Laid`), kept by every step of writing a card, an
embedded card and a property. -/
namespace VCard.ContentLine

open Encoding

/-! ### Octets -/

/-- The number of octets characters take in UTF-8. -/
def octets (cs : List Char) : Nat := (encodeUtf8 (String.ofList cs)).length

@[simp] theorem octets_nil : octets [] = 0 := rfl

@[simp] theorem octets_cons (c : Char) (cs : List Char) : octets (c :: cs) = utf8Size c + octets cs := by
  simp [octets, encodeUtf8, utf8Size]

theorem octets_le_of_sublist {l m : List Char} (h : List.Sublist l m) : octets l ≤ octets m := by
  induction h with
  | slnil => rfl
  | cons c _ ih =>
    rw [octets_cons]
    omega
  | cons_cons c _ ih =>
    simp only [octets_cons]
    omega

theorem utf8Size_le_four (c : Char) : utf8Size c ≤ 4 := by
  unfold utf8Size encodeUtf8Char
  dsimp only
  split_ifs <;> simp

/-- A physical line fits a line length when it takes at most that many octets,
or has fewer characters than it. -/
def Fits (width : Int) (l : List Char) : Prop := (octets l : Int) ≤ width ∨ (l.length : Int) < width

theorem Fits.of_sublist {width : Int} {l m : List Char} (hm : Fits width m) (h : List.Sublist l m) : Fits width l := by
  have hoct := octets_le_of_sublist h
  have hlen := h.length_le
  rcases hm with hm | hm
  · exact .inl (by omega)
  · exact .inr (by omega)

/-! ### Physical lines ended by CR LF -/

/-- A text cut at each CR LF, which is dropped; the last piece is what follows
the last CR LF. -/
def splitCrlf : List Char → List (List Char)
  | [] => [[]]
  | '\r' :: '\n' :: rest => [] :: splitCrlf rest
  | c :: rest => consFirst c (splitCrlf rest)

/-- The physical lines of a text whose lines each end in CR LF. -/
def crlfEndedLines (cs : List Char) : List (List Char) := (splitCrlf cs).dropLast

@[simp] theorem crlfEndedLines_nil : crlfEndedLines [] = [] := rfl

theorem splitCrlf_ne_nil (cs : List Char) : splitCrlf cs ≠ [] := by
  fun_cases splitCrlf cs
  · simp
  · simp
  · exact consFirst_ne_nil _ _

theorem splitCrlf_cons {c : Char} {cs : List Char} (h : c = '\r' → cs.head? ≠ some '\n') :
    splitCrlf (c :: cs) = consFirst c (splitCrlf cs) := by
  rw [splitCrlf.eq_def]
  split
  · next heq => cases heq
  · next rest heq =>
    simp only [List.cons.injEq] at heq
    obtain ⟨rfl, rfl⟩ := heq
    simp at h
  · next c' rest _ heq =>
    simp only [List.cons.injEq] at heq
    obtain ⟨rfl, rfl⟩ := heq
    rfl

theorem splitCrlf_of_not_mem {cs : List Char} (h : '\r' ∉ cs) : splitCrlf cs = [cs] := by
  fun_induction splitCrlf cs with
  | case1 => rfl
  | case2 rest => simp at h
  | case3 c rest _ ih =>
    rw [ih (fun hr => h (List.mem_cons_of_mem c hr))]
    rfl

theorem consFirst_append (c : Char) {ps : List (List Char)} (h : ps ≠ []) (qs : List (List Char)) :
    consFirst c (ps ++ qs) = consFirst c ps ++ qs := by
  obtain ⟨p, ps, rfl⟩ := List.exists_cons_of_ne_nil h
  rfl

/-- Cutting at a CR LF cuts the text in two. -/
theorem splitCrlf_append_crlf (x y : List Char) :
    splitCrlf (x ++ '\r' :: '\n' :: y) = splitCrlf x ++ splitCrlf y := by
  fun_induction splitCrlf x with
  | case1 => simp [splitCrlf]
  | case2 rest ih => simp [splitCrlf, ih]
  | case3 c rest hne ih =>
    -- the CR LF after `rest` does not pair with a CR that ends it
    have hhead : c = '\r' → (rest ++ '\r' :: '\n' :: y).head? ≠ some '\n' := by
      intro hc
      cases rest with
      | nil => simp
      | cons d rest => simpa using fun hd => hne rest hc (by rw [hd])
    rw [List.cons_append, splitCrlf_cons hhead, ih, consFirst_append c (splitCrlf_ne_nil rest)]

theorem crlfEndedLines_append_crlf (x y : List Char) :
    crlfEndedLines (x ++ '\r' :: '\n' :: y) = splitCrlf x ++ crlfEndedLines y := by
  rw [crlfEndedLines, splitCrlf_append_crlf, List.dropLast_append_of_ne_nil (splitCrlf_ne_nil y)]
  rfl

theorem crlfEndedLines_crlfJoin_append (ls : List (List Char)) (y : List Char) :
    crlfEndedLines (crlfJoin ls ++ y) = ls.flatMap splitCrlf ++ crlfEndedLines y := by
  induction ls with
  | nil => rfl
  | cons l ls ih =>
    rw [crlfJoin, List.flatMap_cons, List.append_assoc, List.append_assoc, List.cons_append, List.cons_append,
      List.nil_append, crlfEndedLines_append_crlf, ← crlfJoin, ih, List.flatMap_cons, List.append_assoc]

/-- **The physical lines of lines ended by CR LF** are the lines cut at every
CR LF they hold. -/
theorem crlfEndedLines_crlfJoin (ls : List (List Char)) : crlfEndedLines (crlfJoin ls) = ls.flatMap splitCrlf := by
  simpa using crlfEndedLines_crlfJoin_append ls []

/-- The physical lines of blocks that each end in CR LF are the blocks' lines,
one block after the other. -/
theorem crlfEndedLines_join {blocks : List String} (h : ∀ b ∈ blocks, ∃ ls, b.toList = crlfJoin ls) :
    crlfEndedLines (String.join blocks).toList = blocks.flatMap fun b => crlfEndedLines b.toList := by
  induction blocks with
  | nil => rfl
  | cons b bs ih =>
    obtain ⟨ls, hls⟩ := h b List.mem_cons_self
    rw [String.join_cons, String.toList_append, hls, crlfEndedLines_crlfJoin_append,
      ih fun c hc => h c (List.mem_cons_of_mem _ hc), List.flatMap_cons, hls, crlfEndedLines_crlfJoin]

theorem mem_consFirst_head {c : Char} {ps : List (List Char)} {p : List Char} (h : p ∈ consFirst c ps) :
    (∃ q, p = c :: q ∧ (q = [] ∨ q ∈ ps)) ∨ p ∈ ps := by
  cases ps with
  | nil =>
    simp only [consFirst, List.mem_singleton] at h
    exact .inl ⟨[], h, .inl rfl⟩
  | cons q qs =>
    simp only [consFirst, List.mem_cons] at h
    rcases h with rfl | h
    · exact .inl ⟨q, rfl, .inr List.mem_cons_self⟩
    · exact .inr (List.mem_cons_of_mem _ h)

/-- Every line a text is cut into is made of the text's characters, in order. -/
theorem sublist_of_mem_splitCrlf {cs l : List Char} (h : l ∈ splitCrlf cs) : List.Sublist l cs := by
  fun_induction splitCrlf cs generalizing l with
  | case1 =>
    rw [List.mem_singleton.1 h]
  | case2 rest ih =>
    rcases List.mem_cons.1 h with rfl | h
    · exact List.nil_sublist _
    · exact ((ih h).cons _).cons _
  | case3 c rest _ ih =>
    rcases mem_consFirst_head h with ⟨q, rfl, rfl | hq⟩ | h
    · exact (List.nil_sublist rest).cons_cons c
    · exact (ih hq).cons_cons c
    · exact (ih h).cons c

/-! ### Folded lines fit -/

/-- **Step and run lemma of folding**: the first piece fits in what the line
has left, and every later piece fits after its space. -/
theorem foldPieces_octets {width : Int} (hw : 5 ≤ width) :
    ∀ (cs : List Char) (counter : Int), counter ≤ width →
      ∃ p ps, foldPieces width cs counter = p :: ps ∧ counter + octets p ≤ width ∧
        ∀ q ∈ ps, 1 + (octets q : Int) ≤ width
  | [], counter, h => ⟨[], [], rfl, by simpa using h, by simp⟩
  | c :: rest, counter, h => by
    have hsize : (utf8Size c : Int) ≤ 4 := by exact_mod_cast utf8Size_le_four c
    unfold foldPieces
    dsimp only
    split
    · -- the character starts a new piece, after the space of the cut
      obtain ⟨p, ps, hps, hp, hq⟩ := foldPieces_octets hw rest (1 + utf8Size c) (by omega)
      refine ⟨[], (c :: p) :: ps, by rw [hps]; rfl, by simpa using h, fun q hq' => ?_⟩
      rcases List.mem_cons.1 hq' with rfl | hq'
      · simp only [octets_cons, Nat.cast_add]
        omega
      · exact hq q hq'
    · obtain ⟨p, ps, hps, hp, hq⟩ := foldPieces_octets hw rest (counter + utf8Size c) (by omega)
      refine ⟨c :: p, ps, by rw [hps]; rfl, ?_, hq⟩
      simp only [octets_cons, Nat.cast_add]
      omega

theorem fits_of_mem_pieceLines {width : Int} (hw : 5 ≤ width) (line : String) :
    ∀ l ∈ pieceLines (linePieces width line), Fits width l := by
  unfold linePieces
  split
  · next hshort =>
    intro l hl
    simp only [pieceLines, List.map_nil, List.mem_singleton] at hl
    subst hl
    exact .inr (by rw [String.length_toList]; exact hshort)
  · obtain ⟨p, ps, hps, hp, hq⟩ := foldPieces_octets hw line.toList 0 (by omega)
    rw [hps]
    intro l hl
    simp only [pieceLines, List.mem_cons, List.mem_map] at hl
    rcases hl with rfl | ⟨q, hq', rfl⟩
    · exact .inl (by omega)
    · have := hq q hq'
      left
      simp only [octets_cons, Nat.cast_add]
      have hspace : utf8Size ' ' = 1 := utf8Size_ascii (by decide)
      rw [hspace]
      omega

/-- **Every physical line of a folded line fits the width**, from 5 on. -/
theorem fits_of_mem_foldLine {width : Int} (hw : 5 ≤ width) (line : String) :
    ∀ l ∈ crlfEndedLines (foldLine width line).toList, Fits width l := by
  rw [foldLine_toList, crlfEndedLines_crlfJoin]
  intro l hl
  obtain ⟨m, hm, hl⟩ := List.mem_flatMap.1 hl
  exact (fits_of_mem_pieceLines hw line m hm).of_sublist (sublist_of_mem_splitCrlf hl)

end VCard.ContentLine

namespace VCard.Vcf

open ContentLine

/-! ### Loops that keep an invariant -/

section Loops

variable {ε σ β : Type}

theorem Yields.forIn {γ : Type} {xs : List γ} {init : β} {body : γ → β → ExceptT ε (StateM σ) (ForInStep β)}
    {I : β → Prop} (h : ∀ x ∈ xs, ∀ acc, I acc → Yields (body x acc) fun r => I r.value) (hinit : I init) :
    Yields (forIn xs init body) I := by
  induction xs generalizing init with
  | nil => exact Yields.pure hinit
  | cons x xs ih =>
    rw [List.forIn_cons]
    refine Yields.bind (h x List.mem_cons_self init hinit) fun r hr => ?_
    cases r with
    | done b => exact Yields.pure hr
    | yield b => exact ih (fun y hy => h y (List.mem_cons_of_mem _ hy)) hr

theorem Yields.foldlM {γ : Type} {xs : List γ} {f : β → γ → ExceptT ε (StateM σ) β} {init : β}
    {I : β → Prop} (h : ∀ acc, I acc → ∀ x ∈ xs, Yields (f acc x) I) (hinit : I init) :
    Yields (xs.foldlM f init) I := by
  induction xs generalizing init with
  | nil => exact Yields.pure hinit
  | cons x xs ih =>
    rw [List.foldlM_cons]
    exact Yields.bind (h init hinit x List.mem_cons_self) fun a ha =>
      ih (fun b hb y hy => h b hb y (List.mem_cons_of_mem _ hy)) ha

end Loops

/-! ### The blocks of written text -/

namespace Writer

/-- A content line holding a quoted-printable value, written whole in 2.1. -/
def QuotedLine (w : Writer) (b : String) : Prop :=
  w.version = .v21 ∧ ∃ group name params value charset encoded,
    params.get? "ENCODING" = some "QUOTED-PRINTABLE" ∧
    Encoding.quotedPrintableText value charset = .ok encoded ∧
    b = w.contentLine group name params encoded ++ "\r\n"

/-- Text laid out as the writer lays it: blocks that each end in CR LF, every
one with lines that fit the line length or a quoted-printable line of 2.1. -/
def Laid (w : Writer) (text : String) : Prop :=
  ∃ blocks : List String, text = String.join blocks ∧ ∀ b ∈ blocks,
    (∃ ls, b.toList = crlfJoin ls) ∧ ((∀ l ∈ crlfEndedLines b.toList, Fits w.settings.lineLength l) ∨ w.QuotedLine b)

theorem Laid.empty (w : Writer) : w.Laid "" := ⟨[], rfl, by simp⟩

theorem Laid.append {w : Writer} {s t : String} (hs : w.Laid s) (ht : w.Laid t) : w.Laid (s ++ t) := by
  obtain ⟨bs, rfl, hbs⟩ := hs
  obtain ⟨cs, rfl, hcs⟩ := ht
  refine ⟨bs ++ cs, String.join_append.symm, fun b hb => ?_⟩
  rcases List.mem_append.1 hb with hb | hb
  · exact hbs b hb
  · exact hcs b hb

theorem Laid.single {w : Writer} {b : String} (hb : ∃ ls, b.toList = crlfJoin ls)
    (h : (∀ l ∈ crlfEndedLines b.toList, Fits w.settings.lineLength l) ∨ w.QuotedLine b) : w.Laid b :=
  ⟨[b], by simp, by simpa using ⟨hb, h⟩⟩

section Bounded

variable {w : Writer} (hL : 5 ≤ w.settings.lineLength)
include hL

theorem laid_line (text : String) : w.Laid (w.line true text) := by
  have hfold : w.line true text = foldLine w.settings.lineLength text := by
    simp only [line, Bool.true_and, bne_iff_ne, ne_eq]
    rw [if_pos (by omega)]
  rw [hfold]
  exact Laid.single ⟨_, foldLine_toList _ _⟩ (.inl (fits_of_mem_foldLine hL text))

end Bounded

theorem laid_quoted {w : Writer} (hv : w.version = .v21) {group : Option String} {name : String}
    {params : Params} (hp : params.get? "ENCODING" = some "QUOTED-PRINTABLE") {value charset encoded : String}
    (he : Encoding.quotedPrintableText value charset = .ok encoded) :
    w.Laid (w.line false (w.contentLine group name params encoded)) := by
  have hline : w.line false (w.contentLine group name params encoded) =
      w.contentLine group name params encoded ++ "\r\n" := by
    simp [line]
  rw [hline]
  refine Laid.single ⟨[(w.contentLine group name params encoded).toList], by simp [crlfJoin]⟩ ?_
  exact .inr ⟨hv, group, name, params, value, charset, encoded, hp, he, rfl⟩

end Writer

/-! ### Writing keeps the layout -/

section Writing

variable {w : Writer} (hL : 5 ≤ w.settings.lineLength)
include hL

theorem writeEmbedded_laid (inner : CardWriter) (depth : Int) (prop : Property) (params : Params) (child : Card)
    (hinner : ∀ d, Yields (inner d true child) w.Laid) :
    Yields (writeEmbedded w inner depth true prop params child) w.Laid := by
  unfold writeEmbedded
  extract_lets limit
  split
  · exact Yields.seq fun _ => Yields.pure (Writer.Laid.empty w)
  split
  · exact Yields.bind (hinner _) fun s hs => Yields.pure ((Writer.laid_line hL _).append hs)
  · exact Yields.seq fun _ => Yields.seq fun _ => Yields.seq fun _ => Yields.pure (Writer.laid_line hL _)

theorem writeProperty_laid (inner : CardWriter) (depth : Int) (card : Card) (self : Option Nat) (prop : Property)
    (hinner : ∀ child d, Yields (inner d true child) w.Laid) :
    Yields (writeProperty w inner depth true card self prop) w.Laid := by
  unfold writeProperty
  extract_lets v name codec params qpParams charset qpParams' afterNote
  suffices h : ∀ u, Yields (afterNote u) w.Laid by
    split
    · exact Yields.seq h
    · exact h ()
  intro u
  dsimp -zeta only [afterNote]
  have hencoding : qpParams'.get? "ENCODING" = some "QUOTED-PRINTABLE" := by
    simp only [qpParams', qpParams, Params.get?_eq_head?_getAll]
    rw [Params.getAll_set_ne _ _ (by decide), Params.getAll_set_self]
    rfl
  refine Yields.seq fun _ => Yields.bind (liftExcept_yields _) fun r _ => ?_
  cases r with
  | skip why => exact Yields.seq fun _ => Yields.pure (Writer.Laid.empty w)
  | embedded child => exact writeEmbedded_laid hL inner depth prop params child (hinner child)
  | written value =>
    dsimp only
    split
    · next hqp =>
      have hv : w.version = .v21 := by simpa using (Bool.and_eq_true_iff.1 hqp).1
      exact Yields.bind (liftExcept_yields _) fun e he => Yields.pure (Writer.laid_quoted hv hencoding he)
    · exact Yields.pure (Writer.laid_line hL _)

/-- **Run lemma.** A card written folded is laid out in blocks, with its
labels, orphaned labels, product identifier and embedded cards. -/
theorem writeCard_laid (fuel : Nat) (depth : Int) (card : Card) : Yields (writeCard w fuel depth true card) w.Laid := by
  induction fuel generalizing depth card with
  | zero => exact Yields.pure (Writer.Laid.empty w)
  | succ fuel ih =>
    have hprop : ∀ self p, Yields (writeProperty w (writeCard w fuel) depth true card self p) w.Laid :=
      fun self p => writeProperty_laid hL _ depth card self p fun child d => ih d child
    unfold writeCard
    extract_lets v inner out
    have hout : w.Laid out := (Writer.laid_line hL _).append (Writer.laid_line hL _)
    refine Yields.bind (Yields.forIn (fun x _ acc hacc => ?_) hout) fun out1 h1 =>
      Yields.bind (Yields.forIn (fun orphan _ acc hacc => ?_) h1) fun out2 h2 => ?_
    · rcases x with ⟨i, p⟩
      refine Yields.bind (hprop _ p) fun s hs => ?_
      split
      · split
        · exact Yields.bind (hprop _ _) fun s2 hs2 => Yields.pure ((hacc.append hs).append hs2)
        · exact Yields.pure (hacc.append hs)
      · exact Yields.pure (hacc.append hs)
    · exact Yields.bind (hprop _ _) fun s hs => Yields.pure (hacc.append hs)
    · split
      · exact Yields.bind (hprop _ _) fun s hs => Yields.pure ((h2.append hs).append (Writer.laid_line hL _))
      · exact Yields.pure (h2.append (Writer.laid_line hL _))

theorem write_laid (cards : List Card) {text : String} {ws : List Warning} (h : write w cards = .ok (text, ws)) :
    w.Laid text := by
  have hrun : Yields (cards.foldlM (fun out c => do
      return out ++ (← writeCard w (nesting c + 1) 0 true c)) "" : EmitM String) w.Laid :=
    Yields.foldlM (fun _ hout c _ => Yields.bind (writeCard_laid hL _ 0 c) fun s hs => Yields.pure (hout.append hs))
      (Writer.Laid.empty w)
  unfold write at h
  dsimp only at h
  split at h
  · next hrun' =>
    cases h
    exact hrun [] _ _ hrun'
  · cases h

end Writing

/-- **Every line the writer writes fits the line length**, from 5 on: the text
is made of blocks whose physical lines are the text's, and every line of a
block takes at most the line length in UTF-8 octets or has fewer characters
than it, unless the block is a 2.1 content line holding a quoted-printable
value. -/
theorem written_lines_fit (w : Writer) (hL : 5 ≤ w.settings.lineLength) (cards : List Card) {text : String}
    {ws : List Warning} (h : write w cards = .ok (text, ws)) :
    ∃ blocks : List String, text = String.join blocks ∧
      crlfEndedLines text.toList = blocks.flatMap (fun b => crlfEndedLines b.toList) ∧
      ∀ b ∈ blocks, (∀ l ∈ crlfEndedLines b.toList, Fits w.settings.lineLength l) ∨ w.QuotedLine b := by
  obtain ⟨blocks, rfl, hblocks⟩ := write_laid hL cards h
  exact ⟨blocks, rfl, crlfEndedLines_join fun b hb => (hblocks b hb).1, fun b hb => (hblocks b hb).2⟩

/-- A 3.0 card whose formatted name is a euro sign, three octets in UTF-8. -/
def euroNameCard : Card := { version := .v30, properties := [Property.make "FN" (.text (some "€"))] }

/-- At a line length of 5 every line of the card is folded to fit, but for
`FN:€`, which is shorter than 5 characters. -/
theorem euroName_lines_fit :
    5 ≤ ({ version := .v30, settings := { lineLength := 5 } } : Writer).settings.lineLength ∧
      ∃ text, write { version := .v30, settings := { lineLength := 5 } } [euroNameCard] = .ok (text, []) ∧
        ∃ blocks : List String, text = String.join blocks ∧
          crlfEndedLines text.toList = blocks.flatMap (fun b => crlfEndedLines b.toList) ∧
          ∀ b ∈ blocks, (∀ l ∈ crlfEndedLines b.toList,
              Fits ({ version := .v30, settings := { lineLength := 5 } } : Writer).settings.lineLength l) ∨
            ({ version := .v30, settings := { lineLength := 5 } } : Writer).QuotedLine b := by
  have hwrite : write { version := .v30, settings := { lineLength := 5 } } [euroNameCard] =
      .ok (foldLine 5 "BEGIN:VCARD" ++ foldLine 5 "VERSION:3.0" ++ String.ofList (crlfJoin [['F', 'N', ':', '€']]) ++
        foldLine 5 "END:VCARD", []) :=
    eq_ok_of_toOption (by decide +kernel)
  exact ⟨by decide, _, hwrite, written_lines_fit _ (by decide) _ hwrite⟩

-- the line `FN:€` has four characters, fewer than 5, so it is written unfolded with its six octets
theorem shortLine_exceeds_octets :
    ∃ text ws, write { version := .v30, settings := { lineLength := 5 } } [euroNameCard] = .ok (text, ws) ∧
      ∃ l ∈ crlfEndedLines text.toList, 5 < octets l := by
  refine ⟨foldLine 5 "BEGIN:VCARD" ++ foldLine 5 "VERSION:3.0" ++ String.ofList (crlfJoin [['F', 'N', ':', '€']]) ++
    foldLine 5 "END:VCARD", [], eq_ok_of_toOption (by decide +kernel), ['F', 'N', ':', '€'], ?_, ?_⟩
  · rw [String.toList_append, String.toList_append, String.toList_append, foldLine_toList, foldLine_toList,
      foldLine_toList, String.toList_ofList, List.append_assoc, List.append_assoc, crlfEndedLines_crlfJoin_append,
      crlfEndedLines_crlfJoin_append, crlfEndedLines_crlfJoin_append, crlfEndedLines_crlfJoin]
    simp [splitCrlf_of_not_mem]
  · simp [Encoding.utf8Size, Encoding.encodeUtf8Char]

end VCard.Vcf
