import Mathlib
import VCard.Encoding.Text
import VCard.Text.Blank
/-! Quoted-printable text reads back as its bytes.

The encoder writes each byte as itself or as `=XX`, and breaks lines with a soft
break, `=` and a line end, before a line grows past 76 characters. Cut at its
soft breaks, the text is a list of lines of ASCII characters without line breaks
(`SoftLines`), and read with the soft breaks as `=` and a line feed, it decodes
to the bytes it was written from; the last line ends in a character that is
neither blank nor `=`, so that a reader never takes what follows it as more of
it. `encodeQuotedPrintable_softLines` says this of every byte string, whatever
the soft break, and `quotedPrintableText_softLines` of text written in a
character set, whose soft breaks all end in CR LF. -/
namespace VCard.Encoding

/-! ### Characters -/

/-- A character that quoted-printable text holds between soft breaks: ASCII, and
no line break. -/
def SafeChar (c : Char) : Prop := c.toNat < 0x80 ∧ c ≠ '\r' ∧ c ≠ '\n'

/-- A character that may end quoted-printable text: not blank, and not `=`. -/
def Closing (c : Char) : Prop := Text.isBlank c = false ∧ c ≠ '='

/-- The bytes of ASCII characters, one each. -/
def asciiBytes (cs : List Char) : List UInt8 := cs.map fun c => UInt8.ofNat c.toNat

@[simp] theorem asciiBytes_append (a b : List Char) : asciiBytes (a ++ b) = asciiBytes a ++ asciiBytes b :=
  List.map_append

theorem encodeUtf8_ofList_ascii {cs : List Char} (h : ∀ c ∈ cs, c.toNat < 0x80) :
    encodeUtf8 (String.ofList cs) = asciiBytes cs := by
  induction cs with
  | nil => rfl
  | cons c cs ih =>
    have hc := h c List.mem_cons_self
    simp only [encodeUtf8, String.toList_ofList, List.flatMap_cons, encodeUtf8Char_ascii hc, asciiBytes,
      List.map_cons, List.singleton_append, List.cons.injEq, true_and] at ih ⊢
    exact ih fun d hd => h d (List.mem_cons_of_mem c hd)

/-- The facts about the sixteen upper-case hex digits the encoder writes. -/
theorem hexDigitUpper_spec : ∀ n < 16,
    (hexDigitUpper n).toNat < 0x80 ∧ hexDigitUpper n ≠ '\r' ∧ hexDigitUpper n ≠ '\n' ∧
      Text.isBlank (hexDigitUpper n) = false ∧ hexDigitUpper n ≠ '=' ∧
      hexValue? (UInt8.ofNat (hexDigitUpper n).toNat) = some n ∧ UInt8.ofNat (hexDigitUpper n).toNat ≠ 10 ∧
      UInt8.ofNat (hexDigitUpper n).toNat ≠ 13 ∧ UInt8.ofNat (hexDigitUpper n).toNat ≠ 61 := by
  decide

/-! ### Reading the bytes back -/

theorem decode_softBreak (rest : List UInt8) :
    decodeQuotedPrintable (61 :: 10 :: rest) = decodeQuotedPrintable rest := by
  rw [decodeQuotedPrintable]

theorem decode_literal {b : UInt8} (hb : b ≠ 61) (rest : List UInt8) :
    decodeQuotedPrintable (b :: rest) = b :: decodeQuotedPrintable rest := by
  rw [decodeQuotedPrintable.eq_def]
  split
  · next heq => cases heq
  · next heq => exact absurd (List.cons.inj heq).1 hb
  · next heq =>
    obtain ⟨rfl, rfl⟩ := List.cons.inj heq
    rfl

theorem decode_hex {x y : UInt8} {m n : Nat} (hx : hexValue? x = some m) (hy : hexValue? y = some n)
    (hx10 : x ≠ 10) (hx13 : x ≠ 13) (hx61 : x ≠ 61) (rest : List UInt8) :
    decodeQuotedPrintable (61 :: x :: y :: rest) = UInt8.ofNat (m * 16 + n) :: decodeQuotedPrintable rest := by
  rw [decodeQuotedPrintable.eq_def]
  split
  · next heq => cases heq
  · next r heq =>
    obtain ⟨-, rfl⟩ := List.cons.inj heq
    split
    · next heq' => cases heq'
    · next heq' => exact absurd (List.cons.inj heq').1 hx10
    · next heq' => exact absurd (List.cons.inj heq').1 hx13
    · next heq' => exact absurd (List.cons.inj heq').1 hx61
    · next a b more heq' =>
      obtain ⟨rfl, heq''⟩ := List.cons.inj heq'
      obtain ⟨rfl, rfl⟩ := List.cons.inj heq''
      rw [hx, hy]
    · next heq' => cases heq'
  · next hne heq => exact absurd (List.cons.inj heq).1.symm hne

/-! ### Lines between soft breaks -/

/-- Puts characters at the front of the first line. -/
def prependFirst (x : List Char) : List (List Char) → List (List Char)
  | [] => [x]
  | s :: ss => (x ++ s) :: ss

theorem intercalate_prependFirst (sep x : List Char) {segs : List (List Char)} (h : segs ≠ []) :
    sep.intercalate (prependFirst x segs) = x ++ sep.intercalate segs := by
  obtain ⟨s, ss, rfl⟩ := List.exists_cons_of_ne_nil h
  cases ss <;> simp [prependFirst, List.intercalate_cons_cons]

theorem mem_prependFirst {x s : List Char} {segs : List (List Char)} (h : s ∈ prependFirst x segs) :
    (∃ s₀, (s₀ = [] ∨ s₀ ∈ segs) ∧ s = x ++ s₀) ∨ s ∈ segs := by
  cases segs with
  | nil =>
    simp only [prependFirst, List.mem_singleton] at h
    exact .inl ⟨[], .inl rfl, by simp [h]⟩
  | cons t ts =>
    simp only [prependFirst, List.mem_cons] at h
    rcases h with rfl | h
    · exact .inl ⟨t, .inr List.mem_cons_self, rfl⟩
    · exact .inr (List.mem_cons_of_mem _ h)

theorem prependFirst_closing (x : List Char) (init : List (List Char)) (l : List Char) (c : Char) :
    ∃ init' l', prependFirst x (init ++ [l ++ [c]]) = init' ++ [l' ++ [c]] := by
  cases init with
  | nil => exact ⟨[], x ++ l, by simp [prependFirst]⟩
  | cons s ss => exact ⟨(x ++ s) :: ss, l, rfl⟩

/-- Quoted-printable text `out` of the bytes `bs`, with soft breaks `sb`: lines of
safe characters between the soft breaks that, read with `=` and a line feed for
each soft break, decode to `bs`; no line at all when there are no bytes, and
else a last line that ends in a closing character. -/
def SoftLines (sb out : List Char) (bs : List UInt8) : Prop :=
  ∃ segs : List (List Char), out = sb.intercalate segs ∧ (∀ s ∈ segs, ∀ c ∈ s, SafeChar c) ∧
    decodeQuotedPrintable (asciiBytes (['=', '\n'].intercalate segs)) = bs ∧
    (bs = [] → segs = [[]]) ∧ (bs ≠ [] → ∃ init l c, segs = init ++ [l ++ [c]] ∧ Closing c)

theorem softLines_nil (sb : List Char) : SoftLines sb [] [] :=
  ⟨[[]], rfl, by simp, by simp [asciiBytes, decodeQuotedPrintable], fun _ => rfl, fun h => absurd rfl h⟩

/-- A byte written as `chunk` in front of quoted-printable text. -/
theorem SoftLines.chunk {sb out : List Char} {bs : List UInt8} (h : SoftLines sb out bs) {chunk : List Char}
    {b : UInt8} (hsafe : ∀ c ∈ chunk, SafeChar c)
    (hdecode : ∀ rest, decodeQuotedPrintable (asciiBytes chunk ++ rest) = b :: decodeQuotedPrintable rest)
    (hclose : bs = [] → ∃ l c, chunk = l ++ [c] ∧ Closing c) : SoftLines sb (chunk ++ out) (b :: bs) := by
  obtain ⟨segs, rfl, hs, hd, hnil, hlast⟩ := h
  have hne : segs ≠ [] := by
    by_cases hbs : bs = []
    · simp [hnil hbs]
    · obtain ⟨init, l, c, rfl, -⟩ := hlast hbs
      simp
  refine ⟨prependFirst chunk segs, (intercalate_prependFirst _ _ hne).symm, fun s hs' => ?_, ?_,
    fun h => absurd h (List.cons_ne_nil _ _), fun _ => ?_⟩
  · rcases mem_prependFirst hs' with ⟨s₀, hs₀, rfl⟩ | hs'
    · intro c hc
      rcases List.mem_append.1 hc with hc | hc
      · exact hsafe c hc
      · rcases hs₀ with rfl | hs₀
        · simp at hc
        · exact hs s₀ hs₀ c hc
    · exact hs s hs'
  · rw [intercalate_prependFirst _ _ hne, asciiBytes_append, hdecode, hd]
  · by_cases hbs : bs = []
    · obtain ⟨l, c, rfl, hc⟩ := hclose hbs
      exact ⟨[], l, c, by simp [hnil hbs, prependFirst], hc⟩
    · obtain ⟨init, l, c, rfl, hc⟩ := hlast hbs
      obtain ⟨init', l', h'⟩ := prependFirst_closing chunk init l c
      exact ⟨init', l', c, h', hc⟩

/-- A soft break in front of quoted-printable text of some bytes. -/
theorem SoftLines.softBreak {sb out : List Char} {bs : List UInt8} (h : SoftLines sb out bs) (hbs : bs ≠ []) :
    SoftLines sb (sb ++ out) bs := by
  obtain ⟨segs, rfl, hs, hd, -, hlast⟩ := h
  obtain ⟨init, l, c, rfl, hc⟩ := hlast hbs
  obtain ⟨s, ss, hss⟩ := List.exists_cons_of_ne_nil (List.append_ne_nil_of_right_ne_nil init (List.cons_ne_nil (l ++ [c]) []))
  refine ⟨[] :: (init ++ [l ++ [c]]), ?_, ?_, ?_, fun h => absurd h hbs, fun _ => ⟨[] :: init, l, c, rfl, hc⟩⟩
  · rw [hss, List.intercalate_cons_cons, List.nil_append]
  · intro s' hs'
    rcases List.mem_cons.1 hs' with rfl | hs'
    · simp
    · exact hs s' hs'
  · rw [hss, List.intercalate_cons_cons, List.nil_append, ← hss, ← hd]
    exact decode_softBreak _

/-- The written form of a byte, `=` and two hex digits. -/
def hexChunk (b : UInt8) : List Char := ['=', hexDigitUpper (b.toNat / 16), hexDigitUpper (b.toNat % 16)]

theorem toNat_div_lt (b : UInt8) : b.toNat / 16 < 16 := by
  have := b.toNat_lt
  omega

theorem hexChunk_safe (b : UInt8) : ∀ c ∈ hexChunk b, SafeChar c := by
  have hhi := hexDigitUpper_spec (b.toNat / 16) (toNat_div_lt b)
  have hlo := hexDigitUpper_spec (b.toNat % 16) (by omega)
  simp only [hexChunk, List.mem_cons, List.not_mem_nil, or_false]
  rintro c (rfl | rfl | rfl)
  · exact ⟨by decide, by decide, by decide⟩
  · exact ⟨hhi.1, hhi.2.1, hhi.2.2.1⟩
  · exact ⟨hlo.1, hlo.2.1, hlo.2.2.1⟩

theorem decode_hexChunk (b : UInt8) (rest : List UInt8) :
    decodeQuotedPrintable (asciiBytes (hexChunk b) ++ rest) = b :: decodeQuotedPrintable rest := by
  obtain ⟨-, -, -, -, -, hhi, h10, h13, h61⟩ := hexDigitUpper_spec (b.toNat / 16) (toNat_div_lt b)
  obtain ⟨-, -, -, -, -, hlo, -⟩ := hexDigitUpper_spec (b.toNat % 16) (by omega)
  have hb : UInt8.ofNat (b.toNat / 16 * 16 + b.toNat % 16) = b := by
    rw [show b.toNat / 16 * 16 + b.toNat % 16 = b.toNat by omega]
    exact UInt8.ofNat_toNat
  simp only [hexChunk, asciiBytes, List.map_cons, List.map_nil, List.cons_append, List.nil_append]
  rw [show UInt8.ofNat '='.toNat = 61 from rfl, decode_hex hhi hlo h10 h13 h61, hb]

theorem hexChunk_closing (b : UInt8) : ∃ l c, hexChunk b = l ++ [c] ∧ Closing c := by
  obtain ⟨-, -, -, hblank, heq, -⟩ := hexDigitUpper_spec (b.toNat % 16) (by omega)
  exact ⟨['=', hexDigitUpper (b.toNat / 16)], _, rfl, hblank, heq⟩

/-- What a byte written as itself is: printable ASCII other than `=`, or a tab
or a space with more bytes after it. -/
theorem literal_of_not_mustQuote {b : UInt8} {atStart : Bool} {next : Option UInt8}
    (h : mustQuote b atStart next = false) :
    b.toNat ≤ 126 ∧ b.toNat ≠ 61 ∧ b.toNat ≠ 13 ∧ b.toNat ≠ 10 ∧ (33 ≤ b.toNat ∨ next.isSome) := by
  unfold mustQuote at h
  simp only [Bool.or_eq_false_iff] at h
  obtain ⟨⟨⟨⟨⟨⟨h126, h61⟩, -⟩, h13⟩, h10⟩, hblank⟩, hctl⟩ := h
  simp only [gt_iff_lt, decide_eq_false_iff_not, Nat.not_lt, beq_eq_false_iff_ne, ne_eq] at h126 h61 h13 h10
  refine ⟨h126, h61, h13, h10, ?_⟩
  -- a tab or a space is written as itself only with more after it
  cases next with
  | none =>
    simp at hblank hctl
    omega
  | some _ => simp

theorem literal_spec {b : UInt8} (hb : b.toNat ≤ 126) :
    (Char.ofNat b.toNat).toNat = b.toNat ∧ asciiBytes [Char.ofNat b.toNat] = [b] := by
  have hc : (Char.ofNat b.toNat).toNat = b.toNat := by
    rw [Char.toNat_ofNat, if_pos (by simp [Nat.isValidChar]; omega)]
  exact ⟨hc, by simp [asciiBytes, hc, UInt8.ofNat_toNat]⟩

/-- Before a byte the encoder writes a soft break or nothing. -/
theorem softBreak_or_nil {sb p : List Char} {c : Prop} [Decidable c] {k m : Nat}
    (h : (if c then (sb, 0) else ([], k)) = (p, m)) : p = sb ∨ p = [] := by
  split at h
  · exact .inl (Prod.mk.inj h).1.symm
  · exact .inr (Prod.mk.inj h).1.symm

/-- **Run lemma of the encoder.** From any position on a line, what the encoder
writes for the rest of the bytes is quoted-printable text of them. -/
theorem go_softLines (sb : List Char) (bs : List UInt8) (n : Nat) :
    SoftLines sb (encodeQuotedPrintable.go sb bs n) bs := by
  -- each step writes a soft break or nothing, then the byte, before the rest
  fun_induction encodeQuotedPrintable.go sb bs n with
  | case1 => exact softLines_nil sb
  | case2 b rest _ _ pre _ hsplit ih =>
    have hchunk := ih.chunk (hexChunk_safe b) (decode_hexChunk b) fun _ => hexChunk_closing b
    rcases softBreak_or_nil hsplit with rfl | rfl
    · rw [List.append_assoc]
      exact hchunk.softBreak (List.cons_ne_nil _ _)
    · exact hchunk
  | case3 b rest _ hquote pre _ hsplit ih =>
    obtain ⟨h126, h61, h13, h10, hend⟩ := literal_of_not_mustQuote (Bool.eq_false_iff.2 hquote)
    obtain ⟨hc, hbytes⟩ := literal_spec h126
    have hsafe : ∀ c ∈ [Char.ofNat b.toNat], SafeChar c := by
      simp only [List.mem_singleton]
      rintro c rfl
      refine ⟨by omega, fun h => h13 ?_, fun h => h10 ?_⟩
      · rw [← hc, h]
        rfl
      · rw [← hc, h]
        rfl
    have hdecode : ∀ r, decodeQuotedPrintable (asciiBytes [Char.ofNat b.toNat] ++ r) = b :: decodeQuotedPrintable r := by
      intro r
      rw [hbytes, List.singleton_append, decode_literal (fun h => h61 (by simp [h]))]
    have hclose : rest = [] → ∃ l c, [Char.ofNat b.toNat] = l ++ [c] ∧ Closing c := by
      rintro rfl
      have h33 : 33 ≤ b.toNat := by simpa using hend
      refine ⟨[], _, rfl, ?_, fun h => h61 (by simpa [h] using hc.symm)⟩
      simp only [Text.isBlank, hc]
      simp
      omega
    have hchunk := ih.chunk hsafe hdecode hclose
    rcases softBreak_or_nil hsplit with rfl | rfl
    · rw [List.append_assoc]
      exact hchunk.softBreak (List.cons_ne_nil _ _)
    · exact hchunk

/-- **Quoted-printable bytes are lines that read back as the bytes**, cut at
soft breaks of `=` and CR LF, or of `=` and LF. -/
theorem encodeQuotedPrintable_softLines (bs : List UInt8) :
    ∃ sb, (sb = ['=', '\r', '\n'] ∨ sb = ['=', '\n']) ∧ SoftLines sb (encodeQuotedPrintable bs).toList bs := by
  unfold encodeQuotedPrintable
  rw [String.toList_ofList]
  refine ⟨_, ?_, go_softLines _ bs 0⟩
  split_ifs
  · exact .inl rfl
  · exact .inr rfl

/-! ### Soft breaks in CR LF -/

theorem crlfSoftBreaks_cons {c : Char} {r : List Char} (h : c = '=' → r.head? ≠ some '\n') :
    crlfSoftBreaks (c :: r) = c :: crlfSoftBreaks r := by
  rw [crlfSoftBreaks.eq_def]
  split
  · next heq => cases heq
  · next rest heq =>
    obtain ⟨rfl, rfl⟩ := List.cons.inj heq
    simp at h
  · next c' rest _ heq =>
    obtain ⟨rfl, rfl⟩ := List.cons.inj heq
    rfl

theorem crlfSoftBreaks_of_not_mem {s : List Char} (h : '\n' ∉ s) : crlfSoftBreaks s = s := by
  induction s with
  | nil => rfl
  | cons c s ih =>
    have hs : '\n' ∉ s := fun hn => h (List.mem_cons_of_mem c hn)
    rw [crlfSoftBreaks_cons, ih hs]
    intro _
    cases s with
    | nil => simp
    | cons d s =>
      simp only [List.head?_cons, ne_eq, Option.some.injEq]
      rintro rfl
      exact hs List.mem_cons_self

theorem crlfSoftBreaks_softBreak_append {sb : List Char} (hsb : sb = ['=', '\r', '\n'] ∨ sb = ['=', '\n'])
    {s : List Char} (h : '\n' ∉ s) (rest : List Char) :
    crlfSoftBreaks (s ++ sb ++ rest) = s ++ ['=', '\r', '\n'] ++ crlfSoftBreaks rest := by
  induction s with
  | nil =>
    rcases hsb with rfl | rfl
    · simp only [List.nil_append, List.cons_append]
      rw [crlfSoftBreaks_cons (by simp), crlfSoftBreaks_cons (by simp), crlfSoftBreaks_cons (by simp)]
    · rfl
  | cons c s ih =>
    have hs : '\n' ∉ s := fun hn => h (List.mem_cons_of_mem c hn)
    -- the soft break starts with `=`, so no character before it starts one
    have hhead : c = '=' → (s ++ sb ++ rest).head? ≠ some '\n' := by
      intro _
      cases s with
      | nil => rcases hsb with rfl | rfl <;> simp
      | cons d s =>
        simp only [List.cons_append, List.head?_cons, ne_eq, Option.some.injEq]
        rintro rfl
        exact hs List.mem_cons_self
    rw [List.cons_append, List.cons_append, crlfSoftBreaks_cons hhead, ih hs]
    rfl

theorem crlfSoftBreaks_intercalate {sb : List Char} (hsb : sb = ['=', '\r', '\n'] ∨ sb = ['=', '\n'])
    {segs : List (List Char)} (h : ∀ s ∈ segs, '\n' ∉ s) :
    crlfSoftBreaks (sb.intercalate segs) = ['=', '\r', '\n'].intercalate segs := by
  induction segs with
  | nil => rfl
  | cons s ss ih =>
    cases ss with
    | nil => simpa using crlfSoftBreaks_of_not_mem (h s List.mem_cons_self)
    | cons t ts =>
      rw [List.intercalate_cons_cons, List.intercalate_cons_cons, List.append_assoc s,
        ← List.append_assoc, crlfSoftBreaks_softBreak_append hsb (h s List.mem_cons_self),
        ih fun x hx => h x (List.mem_cons_of_mem s hx), List.append_assoc]

/-- Lines of safe characters joined by ASCII separators hold ASCII characters only. -/
theorem ascii_of_mem_intercalate {sep : List Char} (hsep : ∀ c ∈ sep, c.toNat < 0x80)
    {segs : List (List Char)} (hs : ∀ s ∈ segs, ∀ c ∈ s, SafeChar c) : ∀ c ∈ sep.intercalate segs, c.toNat < 0x80 := by
  induction segs with
  | nil => simp
  | cons s ss ih =>
    intro c hc
    cases ss with
    | nil => exact (hs s List.mem_cons_self c (by simpa using hc)).1
    | cons t ts =>
      rw [List.intercalate_cons_cons, List.mem_append, List.mem_append] at hc
      rcases hc with (hc | hc) | hc
      · exact (hs s List.mem_cons_self c hc).1
      · exact hsep c hc
      · exact ih (fun x hx => hs x (List.mem_cons_of_mem _ hx)) c hc

theorem SoftLines.crlfSoftBreaks {sb out : List Char} {bs : List UInt8} (h : SoftLines sb out bs)
    (hsb : sb = ['=', '\r', '\n'] ∨ sb = ['=', '\n']) : SoftLines ['=', '\r', '\n'] (crlfSoftBreaks out) bs := by
  obtain ⟨segs, rfl, hs, hd, hnil, hlast⟩ := h
  exact ⟨segs, crlfSoftBreaks_intercalate hsb fun s hs' hn => (hs s hs' _ hn).2.2 rfl, hs, hd, hnil, hlast⟩

/-- **Text written quoted-printable in a character set** is lines cut at soft
breaks of `=` and CR LF, which read back as the bytes of the text in the set. -/
theorem quotedPrintableText_softLines {value charset : String} {bytes : List UInt8}
    (h : Charset.encode charset (String.ofList (crlfLines value.toList)) = .ok bytes) :
    ∃ encoded, quotedPrintableText value charset = .ok encoded ∧ SoftLines ['=', '\r', '\n'] encoded.toList bytes := by
  obtain ⟨sb, hsb, hlines⟩ := encodeQuotedPrintable_softLines bytes
  refine ⟨_, by rw [quotedPrintableText, h], ?_⟩
  rw [String.toList_ofList]
  exact hlines.crlfSoftBreaks hsb

/-! ### Line ends -/

theorem lfLines_cons {c : Char} {r : List Char} (h : c = '\r' → r.head? ≠ some '\n') :
    lfLines (c :: r) = c :: lfLines r := by
  rw [lfLines.eq_def]
  split
  · next heq => cases heq
  · next rest heq =>
    obtain ⟨rfl, rfl⟩ := List.cons.inj heq
    simp at h
  · next c' rest _ heq =>
    obtain ⟨rfl, rfl⟩ := List.cons.inj heq
    rfl

theorem head?_crlfLines {r : List Char} (h : r.head? ≠ some '\n') : (crlfLines r).head? = r.head? := by
  cases r with
  | nil => rfl
  | cons d r =>
    unfold crlfLines
    split <;> simp_all

/-- Making every line break CR LF and then every CR LF a line feed is making
every CR LF a line feed. -/
theorem lfLines_crlfLines (cs : List Char) : lfLines (crlfLines cs) = lfLines cs := by
  fun_induction crlfLines cs with
  | case1 => rfl
  | case2 r ih => simp [lfLines, ih]
  | case3 r ih =>
    rw [lfLines_cons (c := '\n') (by simp)]
    simp [lfLines, ih]
  | case4 c r hcr hlf ih =>
    -- a carriage return that ends no line stays, and is still followed by no line feed
    have hhead : c = '\r' → r.head? ≠ some '\n' := by
      rintro rfl
      cases r with
      | nil => simp
      | cons d r => simpa using fun hd => hcr r rfl (by rw [hd])
    have hhead' : c = '\r' → (crlfLines r).head? ≠ some '\n' := fun hc => by
      rw [head?_crlfLines (hhead hc)]
      exact hhead hc
    rw [lfLines_cons hhead', ih, lfLines_cons hhead]

end VCard.Encoding
