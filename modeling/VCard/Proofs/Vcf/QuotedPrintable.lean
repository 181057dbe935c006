import VCard.Proofs.Encoding.QuotedPrintable
import VCard.Proofs.ContentLine.Folding
import VCard.Proofs.Vcf.Quiet
import VCard.Proofs.Vcf.Write
import VCard.Proofs.Vcf.Writing
import VCard.Proofs.Codec.Preference
/-! A 2.1 value written quoted-printable reads back.

In 2.1 a value with a line break is written quoted-printable in its character
set, unfolded, with `ENCODING` and `CHARSET` set (`writeProperty_quoted`). Its
soft breaks cut the content line into physical lines that each end in `=` but
the last, and the reader joins such lines back into one logical line, after a
line feed each, because the line read so far ends in `=` and mentions
`quoted-printable` (`readsAs_softBreakLines`). Decoding that logical line's
value drops the soft breaks and gives the bytes of the text in the character
set (`Encoding.SoftLines`), and the character set the reader finds in the
`CHARSET` parameter, line breaks and quotes replaced, is the same set
(`Charset.decode_sanitize`).

`quotedPrintable_reads_back` puts these together: when the text with every line
break made CR LF comes back from its bytes in the character set, the reader gets
the text back with every CR LF a line feed, drops `ENCODING` and `CHARSET`, and
warns of nothing. The condition is on the CR LF form, not on the text: in the
IDNA set a label of 63 characters comes back from its bytes, but with its line
feed made CR LF it is too long, and writing fails
(`idnaNote_round_trips_but_fails`). -/
namespace VCard.ContentLine

open Text

/-! ### Lines cut at soft breaks -/

/-- The physical lines of text cut at soft breaks: every line but the last ends
in the `=` of its soft break. -/
def softBreakLines : List (List Char) → List (List Char)
  | [] => []
  | [s] => [s]
  | s :: t :: ts => (s ++ ['=']) :: softBreakLines (t :: ts)

theorem crlfJoin_softBreakLines {segs : List (List Char)} (h : segs ≠ []) :
    crlfJoin (softBreakLines segs) = ['=', '\r', '\n'].intercalate segs ++ ['\r', '\n'] := by
  induction segs with
  | nil => exact absurd rfl h
  | cons s ss ih =>
    cases ss with
    | nil => simp [softBreakLines, crlfJoin]
    | cons t ts =>
      rw [softBreakLines, crlfJoin, List.flatMap_cons, ← crlfJoin, ih (List.cons_ne_nil _ _),
        List.intercalate_cons_cons]
      simp

theorem mem_softBreakLines {segs : List (List Char)} {l : List Char} (h : l ∈ softBreakLines segs) :
    ∃ s ∈ segs, l = s ∨ l = s ++ ['='] := by
  induction segs with
  | nil => simp [softBreakLines] at h
  | cons s ss ih =>
    cases ss with
    | nil =>
      simp only [softBreakLines, List.mem_singleton] at h
      exact ⟨s, List.mem_cons_self, .inl h⟩
    | cons t ts =>
      simp only [softBreakLines, List.mem_cons] at h
      rcases h with rfl | h
      · exact ⟨s, List.mem_cons_self, .inr rfl⟩
      · obtain ⟨x, hx, hl⟩ := ih h
        exact ⟨x, List.mem_cons_of_mem s hx, hl⟩

/-! ### Mentioning quoted-printable -/

theorem hasRun_of_infix {needle cs : List Char} (h : needle <:+: cs) : hasRun needle cs = true := by
  obtain ⟨s, t, rfl⟩ := h
  induction s with
  | nil =>
    cases needle with
    | nil => cases t <;> simp [hasRun]
    | cons c n => simp [hasRun]
  | cons c s ih =>
    simp only [List.append_assoc] at ih
    simp [hasRun, ih]

theorem hasRun_append {needle a : List Char} (h : hasRun needle a = true) (b : List Char) :
    hasRun needle (a ++ b) = true := by
  induction a with
  | nil =>
    simp only [hasRun, List.isEmpty_iff] at h
    subst h
    exact hasRun_of_infix List.nil_infix
  | cons c a ih =>
    simp only [hasRun, List.cons_append, Bool.or_eq_true] at h ⊢
    rcases h with h | h
    · exact .inl (List.isPrefixOf_iff_prefix.2 ((List.isPrefixOf_iff_prefix.1 h).trans (List.prefix_append _ _)))
    · exact .inr (ih h)

theorem lowerChars_append (a b : List Char) : lowerChars (a ++ b) = lowerChars a ++ lowerChars b :=
  List.flatMap_append

/-- A line that holds `QUOTED-PRINTABLE` mentions quoted-printable. -/
theorem mentions_of_infix {cs : List Char} (h : "QUOTED-PRINTABLE".toList <:+: cs) :
    hasRun "quoted-printable".toList (lowerChars cs) = true := by
  apply hasRun_of_infix
  obtain ⟨s, t, rfl⟩ := h
  rw [lowerChars_append, lowerChars_append,
    show lowerChars "QUOTED-PRINTABLE".toList = "quoted-printable".toList by simp [lowerChars, lowerChar]]
  exact List.infix_append _ _ _

/-! ### Joining at soft breaks -/

theorem wantsContinuation_closing {buf : List Char} {c : Char} (h : buf.getLast? = some c) (hc : c ≠ '=') :
    wantsContinuation buf = false := by
  simp [wantsContinuation, h, hc]

theorem wantsContinuation_softBreak {buf : List Char} (h : hasRun "quoted-printable".toList (lowerChars buf) = true) :
    wantsContinuation (buf ++ ['=']) = true := by
  simp only [wantsContinuation, List.getLast?_append, List.getLast?_singleton, Option.some_or, beq_self_eq_true,
    Bool.true_and, lowerChars_append]
  exact hasRun_append h _

/-- A line that is not blank goes on with a quoted-printable line, after a line feed. -/
theorem Joiner.feed_softBreak (j : Joiner) (n : Nat) {line : List Char} (hj : j.continuation = true)
    (hline : isBlankLine line = false) :
    j.feed n line =
      { j with buffer := j.buffer ++ '\n' :: line, continuation := wantsContinuation (j.buffer ++ '\n' :: line) } := by
  simp [Joiner.feed, hline, hj]

/-- **Run lemma of soft breaks.** After a line that asks for a continuation, the
lines cut at soft breaks go on with it, each after a line feed, and the last
asks for none. -/
theorem run_softBreaks : ∀ (segs : List (List Char)) (j : Joiner) (ns : List Nat),
    j.continuation = true → hasRun "quoted-printable".toList (lowerChars j.buffer) = true →
    (∃ l c, segs.getLast? = some (l ++ [c]) ∧ Encoding.Closing c) → ns.length = (softBreakLines segs).length →
    (j.run ((softBreakLines segs).zip ns)).texts = j.texts ∧
      (j.run ((softBreakLines segs).zip ns)).buffer = j.buffer ++ '\n' :: ['=', '\n'].intercalate segs ∧
      (j.run ((softBreakLines segs).zip ns)).continuation = false
  | [], _, _, _, _, hlast, _ => by simp at hlast
  | [s], j, ns, hj, _, hlast, hns => by
    obtain ⟨l, c, hs, hblank, hc⟩ := hlast
    obtain rfl : s = l ++ [c] := by simpa using hs
    obtain ⟨n, rfl⟩ : ∃ n, ns = [n] := List.length_eq_one_iff.1 (by simpa [softBreakLines] using hns)
    have hline : isBlankLine (l ++ [c]) = false := by simp [isBlankLine, hblank]
    have hlast' : (j.buffer ++ '\n' :: (l ++ [c])).getLast? = some c := by
      rw [show j.buffer ++ '\n' :: (l ++ [c]) = (j.buffer ++ '\n' :: l) ++ [c] by simp]
      simp only [List.getLast?_append, List.getLast?_singleton, Option.some_or]
    rw [show softBreakLines [l ++ [c]] = [l ++ [c]] from rfl]
    simp only [List.zip_cons_cons, List.zip_nil_right, Joiner.run, List.foldl_cons, List.foldl_nil]
    rw [Joiner.feed_softBreak j n hj hline]
    exact ⟨rfl, by simp, wantsContinuation_closing hlast' hc⟩
  | s :: t :: ts, j, ns, hj, hqp, hlast, hns => by
    obtain ⟨n, ns, rfl⟩ : ∃ n ns', ns = n :: ns' :=
      List.exists_cons_of_length_eq_add_one (by simpa [softBreakLines] using hns)
    -- the `=` of the soft break keeps the line from being blank
    have hline : isBlankLine (s ++ ['=']) = false := by simp [isBlankLine, isBlank]
    have hstep := Joiner.feed_softBreak j n hj hline
    have hbuf : (j.feed n (s ++ ['='])).buffer = (j.buffer ++ '\n' :: s) ++ ['='] := by simp [hstep]
    have hqp' : hasRun "quoted-printable".toList (lowerChars (j.feed n (s ++ ['='])).buffer) = true := by
      rw [hbuf, lowerChars_append, lowerChars_append, List.append_assoc]
      exact hasRun_append hqp _
    have hcont : (j.feed n (s ++ ['='])).continuation = true := by
      have hwants : wantsContinuation ((j.buffer ++ '\n' :: s) ++ ['=']) = true :=
        wantsContinuation_softBreak (by rw [lowerChars_append]; exact hasRun_append hqp _)
      rw [hstep]
      simpa using hwants
    obtain ⟨htexts, hbuf', hcont'⟩ := run_softBreaks (t :: ts) (j.feed n (s ++ ['='])) ns hcont hqp'
      (by simpa using hlast) (by simpa [softBreakLines] using hns)
    simp only [softBreakLines, List.zip_cons_cons, Joiner.run, List.foldl_cons] at htexts hbuf' hcont' ⊢
    refine ⟨by rw [htexts, hstep]; rfl, ?_, hcont'⟩
    rw [hbuf', hbuf, List.intercalate_cons_cons]
    simp

/-- **Lines cut at soft breaks read as one logical line**, the soft breaks read
as `=` and a line feed, when the first starts with no blank and mentions
quoted-printable and the last ends in a closing character. -/
theorem readsAs_softBreakLines {s : List Char} {ss : List (List Char)} (hs : ∃ c r, s = c :: r ∧ isBlank c = false)
    (hqp : hasRun "quoted-printable".toList (lowerChars s) = true)
    (hlast : ∃ l c, (s :: ss).getLast? = some (l ++ [c]) ∧ Encoding.Closing c) :
    ReadsAs (softBreakLines (s :: ss)) (['=', '\n'].intercalate (s :: ss)) := by
  obtain ⟨c, r, rfl, hc⟩ := hs
  refine ⟨by cases ss <;> simp [List.intercalate_cons_cons], fun j ns hj hns => ?_⟩
  cases ss with
  | nil =>
    obtain ⟨n, rfl⟩ : ∃ n, ns = [n] := List.length_eq_one_iff.1 (by simpa [softBreakLines] using hns)
    obtain ⟨htexts, hbuf, hcont⟩ := Joiner.feed_first j n r hj hc
    obtain ⟨l, c', hl, -, hc'⟩ := hlast
    have hl' : c :: r = l ++ [c'] := by simpa using hl
    simp only [softBreakLines, List.zip_cons_cons, List.zip_nil_right, Joiner.run, List.foldl_cons,
      List.foldl_nil, List.intercalate_singleton]
    refine ⟨htexts, hbuf, ?_⟩
    rw [hcont]
    exact wantsContinuation_closing (by rw [hl']; simp) hc'
  | cons t ts =>
    obtain ⟨n, ns, rfl⟩ : ∃ n ns', ns = n :: ns' :=
      List.exists_cons_of_length_eq_add_one (by simpa [softBreakLines] using hns)
    obtain ⟨htexts, hbuf, hcont⟩ := Joiner.feed_first j n (r ++ ['=']) hj hc
    have hcont' : (j.feed n (c :: (r ++ ['=']))).continuation = true := by
      rw [hcont, ← List.cons_append]
      exact wantsContinuation_softBreak hqp
    have hqp' : hasRun "quoted-printable".toList (lowerChars (j.feed n (c :: (r ++ ['=']))).buffer) = true := by
      rw [hbuf, ← List.cons_append, lowerChars_append]
      exact hasRun_append hqp _
    obtain ⟨htexts', hbuf', hcont''⟩ := run_softBreaks (t :: ts) _ ns hcont' hqp' (by simpa using hlast)
      (by simpa [softBreakLines] using hns)
    simp only [softBreakLines, List.zip_cons_cons, Joiner.run, List.foldl_cons, List.cons_append] at htexts' hbuf' hcont'' ⊢
    refine ⟨by rw [htexts', htexts], ?_, hcont''⟩
    rw [hbuf', hbuf, List.intercalate_cons_cons]
    simp

end VCard.ContentLine

namespace VCard.Charset

open ContentLine

/-! ### The character set read back -/

theorem canonicalName_go_sanitizeChars (keep : Char → Bool) (hq : keep '"' = false) (ha : keep '\'' = false)
    (hsp : keep ' ' = false) (hcr : keep '\r' = false) (hlf : keep '\n' = false) (cs : List Char) (gap : Bool)
    (acc : List Char) : canonicalName.go keep (sanitizeChars cs) gap acc = canonicalName.go keep cs gap acc := by
  fun_induction sanitizeChars cs generalizing gap acc with
  | case1 => rfl
  | case2 r ih => simp [canonicalName.go, hq, ha, ih]
  | case3 r ih => simp [canonicalName.go, hsp, hcr, hlf, ih]
  | case4 r ih => simp [canonicalName.go, hsp, hlf, ih]
  | case5 r _ ih => simp [canonicalName.go, hsp, hcr, ih]
  | case6 c r _ _ _ _ ih => simp [canonicalName.go, ih]

/-- Quotes and line breaks are no part of a character set's name: replacing them
keeps the name. -/
theorem canonicalName_sanitize (name : String) : canonicalName (sanitize name) = canonicalName name := by
  simp only [canonicalName, sanitize, String.toList_ofList]
  rw [canonicalName_go_sanitizeChars] <;> decide

theorem mem_sanitizeChars_iff {d : Char} (hd : d ∉ ['"', '\'', '\r', '\n', ' ']) (cs : List Char) :
    d ∈ sanitizeChars cs ↔ d ∈ cs := by
  simp only [List.mem_cons, List.not_mem_nil, or_false, not_or] at hd
  obtain ⟨hq, ha, hcr, hlf, hsp⟩ := hd
  fun_induction sanitizeChars cs with
  | case1 => rfl
  | case2 r ih => simp [ih, ha, hq]
  | case3 r ih => simp [ih, hsp, hcr, hlf]
  | case4 r ih => simp [ih, hsp, hlf]
  | case5 r _ ih => simp [ih, hsp, hcr]
  | case6 c r _ _ _ _ ih => simp [ih]

theorem contains_nul_sanitize (name : String) :
    (sanitize name).contains (Char.ofNat 0) = name.contains (Char.ofNat 0) := by
  have hnul : Char.ofNat 0 ∉ ['"', '\'', '\r', '\n', ' '] := by decide
  simp only [String.contains_char_eq, sanitize, String.toList_ofList, mem_sanitizeChars_iff hnul]

theorem lookup?_sanitize (name : String) : Codec.lookup? (sanitize name) = Codec.lookup? name := by
  simp only [Codec.lookup?, canonicalName_sanitize]

theorem textCodec_sanitize {name command : String} {c : Codec} (h : textCodec name command = .ok c) :
    textCodec (sanitize name) command = .ok c := by
  unfold textCodec at h ⊢
  rw [contains_nul_sanitize, lookup?_sanitize]
  split at h
  · cases h
  · next hn =>
    rw [if_neg hn]
    revert h
    cases Codec.lookup? name with
    | none => simp
    | some c' => cases hs : c'.scheme <;> simp [hs]

/-- The codec of a name without NUL that names a text codec. -/
theorem textCodec_eq {name command : String} {c : Codec} (hn : Char.ofNat 0 ∉ name.toList)
    (hl : Codec.lookup? name = some c) (hb : c.scheme ≠ .binary) : textCodec name command = .ok c := by
  unfold textCodec
  rw [String.contains_char_eq, decide_eq_false hn, hl]
  -- only a binary scheme is refused: the equation of the last case needs `hb`
  simp only [Bool.false_eq_true, if_false]

/-- **A character set named with quotes or line breaks replaced decodes as the
set itself.** -/
theorem decode_sanitize {name : String} {bs : List UInt8} {t : String} (h : decode name false bs = .ok t) :
    decode (sanitize name) false bs = .ok t := by
  unfold decode at h ⊢
  rw [contains_nul_sanitize]
  split
  · next hc => rwa [if_pos hc] at h
  · next hc =>
    rw [if_neg hc] at h
    cases hT : textCodec name "codecs.decode()" with
    | error f =>
      rw [hT] at h
      cases h
    | ok c =>
      rw [hT] at h
      rw [textCodec_sanitize hT]
      revert h
      cases hd : c.scheme.decode false bs with
      | ok s => simp [hd]
      | error e => cases e <;> simp [hd]

end VCard.Charset

namespace VCard.Vcf

open ContentLine

/-! ### Writing a value quoted-printable -/

/-- The parameters the writer prepares for a property it writes as text. -/
def Writer.preparedParams (w : Writer) (card : Card) (self : Option Nat) (prop : Property) : Params :=
  ((w.index.codecForProperty prop).prepareParams prop self w.version (some card)).setValueType
    ((w.index.codecForProperty prop).valueParameter prop.value w.version)

/-- The character set a value is written quoted-printable in: the `CHARSET`
parameter, UTF-8 when it is missing or empty. -/
def qpCharset (params : Params) : String :=
  match params.get? "CHARSET" with
  | some c => if c.isEmpty then "UTF-8" else c
  | none => "UTF-8"

/-- The parameters of a value written quoted-printable: `ENCODING` and the
character set. -/
def qpParams (params : Params) : Params :=
  (params.set "ENCODING" (some "QUOTED-PRINTABLE")).set "CHARSET" (some (qpCharset params))

theorem get?_set_encoding (p : Params) (v : Option String) : (p.set "ENCODING" v).get? "CHARSET" = p.get? "CHARSET" := by
  rw [Params.get?_eq_head?_getAll, Params.get?_eq_head?_getAll, Params.getAll_set_ne _ _ (by decide)]

theorem writeProperty_quoted (w : Writer) (inner : CardWriter) (depth : Int) (fold : Bool) (card : Card)
    (self : Option Nat) (prop : Property) {value encoded : String} (hv : w.version = .v21)
    (hwritten : ((w.index.codecForProperty prop).writeText prop.value w.version).run'.1 = .ok (.written value))
    (hbreak : '\n' ∈ value.toList ∨ '\r' ∈ value.toList)
    (hencoded : Encoding.quotedPrintableText value (qpCharset (w.preparedParams card self prop)) = .ok encoded) :
    Returns (writeProperty w inner depth fold card self prop)
      (w.line false (w.contentLine prop.group prop.name (qpParams (w.preparedParams card self prop)) encoded)) := by
  unfold writeProperty
  generalize hw : ((w.index.codecForProperty prop).writeText prop.value w.version).run' = wr at hwritten
  obtain ⟨result, messages⟩ := wr
  simp only at hwritten
  subst hwritten
  have hqp : (w.version == .v21 && (value.contains '\n' || value.contains '\r')) = true := by
    simp [hv, String.contains_char_eq, hbreak]
  simp only [liftExcept, hw, pure_bind, hqp, if_true, get?_set_encoding, qpParams, Writer.preparedParams]
  simp only [Writer.preparedParams] at hencoded
  generalize ((w.index.codecForProperty prop).prepareParams prop self w.version (some card)).setValueType
    ((w.index.codecForProperty prop).valueParameter prop.value w.version) = P at hencoded ⊢
  unfold qpCharset at hencoded ⊢
  have hnotes := returns_notes messages prop.name
  -- the writer spells the character set as its own match on the parameter: reduce both spellings
  cases hcs : P.get? "CHARSET" <;> simp only [hcs] at hencoded ⊢
  all_goals
    simp only [hencoded, pure_bind]
    split
    · exact (returns_note _ _).bind_returns (hnotes.bind_returns (Returns.pure _))
    · exact hnotes.bind_returns (Returns.pure _)

/-! ### The parameters of a quoted-printable line -/

theorem qpCharset_ne (P : Params) : qpCharset P ≠ "" := by
  unfold qpCharset
  split
  · next c _ =>
    split
    · simp
    · next hc => simpa using hc
  · simp

theorem getAll_qpParams_encoding (P : Params) : (qpParams P).getAll "ENCODING" = ["QUOTED-PRINTABLE"] := by
  rw [qpParams, Params.getAll_set_ne _ _ (by decide), Params.getAll_set_self]
  rfl

theorem getAll_qpParams_charset (P : Params) : (qpParams P).getAll "CHARSET" = [qpCharset P] := by
  rw [qpParams, Params.getAll_set_self]
  rfl

/-- The two parameters added for quoted-printable text keep parameters portable. -/
theorem portable_qpParams {P : Params} (hP : P.Portable) : (qpParams P).Portable := by
  have hkE : Params.key "ENCODING" = "ENCODING" := by decide
  have hkC : Params.key "CHARSET" = "CHARSET" := by decide
  refine Params.Portable.of_entries fun e he => ?_
  rcases Params.mem_set he with he | ⟨x, hx, rfl⟩
  · rcases Params.mem_set he with he | ⟨x, hx, rfl⟩
    · exact hP.entry he
    · obtain rfl := Option.mem_some_iff.mp hx
      rw [hkE]
      exact Params.portableEntry_name (by decide) hkE (by decide) (by decide)
  · obtain rfl := Option.mem_some_iff.mp hx
    rw [hkC]
    exact Params.portableEntry_name (by decide) hkC (qpCharset_ne P) (by decide)

/-! ### The quoted-printable line read back -/

theorem Writer.contentLine_toList_append (w : Writer) {group : Option String} (name : String) (p : Params) (value : String)
    (hg : ∀ g ∈ group, g ≠ "") :
    (w.contentLine group name p value).toList = (w.contentLine group name p "").toList ++ value.toList := by
  rw [w.contentLine_toList group name p value hg, w.contentLine_toList group name p "" hg]
  simp

/-- A content line starts with a name character: that of its group, or of its name. -/
theorem Writer.contentLine_head (w : Writer) {group : Option String} {name : String} (p : Params) (value : String)
    (hgroup : ∀ g ∈ group, IsName g) (hname : IsName name) :
    ∃ c r, (w.contentLine group name p value).toList = c :: r ∧ isNameChar c = true := by
  have hg : ∀ g ∈ group, g ≠ "" := fun g hg => (hgroup g hg).ne_empty
  rw [w.contentLine_toList group name p value hg]
  cases group with
  | none =>
    obtain ⟨c, r, hcr⟩ := List.exists_cons_of_ne_nil hname.1
    refine ⟨c, r ++ ((w.writtenParams p).flatMap WrittenParam.chars ++ ':' :: value.toList), ?_,
      (hname.2 c (by simp [hcr])).1⟩
    simp [headChars, hcr]
  | some g =>
    have hg' := hgroup g rfl
    obtain ⟨c, r, hcr⟩ := List.exists_cons_of_ne_nil hg'.1
    refine ⟨c, r ++ '.' :: (name.toList ++ ((w.writtenParams p).flatMap WrittenParam.chars ++ ':' :: value.toList)),
      ?_, (hg'.2 c (by simp [hcr])).1⟩
    simp [headChars, hcr]

/-- A 2.1 line whose `ENCODING` is quoted-printable says so before its value. -/
theorem Writer.quotedPrintable_infix_contentLine (w : Writer) (hv : w.version = .v21) {group : Option String}
    (name : String) {p : Params} (hg : ∀ g ∈ group, g ≠ "") (he : p.getAll "ENCODING" = ["QUOTED-PRINTABLE"]) :
    "QUOTED-PRINTABLE".toList <:+: (w.contentLine group name p "").toList := by
  have hmem : ("ENCODING", ["QUOTED-PRINTABLE"]) ∈ p.multimap := by
    refine Params.mem_multimap.2 ⟨?_, he.symm⟩
    by_contra hn
    rw [Params.getAll_eq_nil_of_not_mem_names (by decide) hn] at he
    cases he
  have hparam : (⟨"ENCODING".toList, (sanitize "QUOTED-PRINTABLE").toList, []⟩ : WrittenParam) ∈
      w.writtenParams p := by
    simp only [Writer.writtenParams, hv, beq_self_eq_true, if_true, Writer.encodedParamValue, bne_self_eq_false,
      Bool.false_and, Bool.false_eq_true, if_false]
    exact List.mem_flatMap.2 ⟨_, hmem, List.mem_singleton_self _⟩
  have hchars : "QUOTED-PRINTABLE".toList <:+:
      WrittenParam.chars ⟨"ENCODING".toList, (sanitize "QUOTED-PRINTABLE").toList, []⟩ :=
    ⟨';' :: "ENCODING".toList ++ ['='], [], rfl⟩
  rw [w.contentLine_toList group name p "" hg]
  have hflat : "QUOTED-PRINTABLE".toList <:+: (w.writtenParams p).flatMap WrittenParam.chars :=
    hchars.trans (List.infix_of_mem_flatten (List.mem_map_of_mem hparam))
  exact hflat.trans (List.infix_append' _ _ _)

/-- **A line written quoted-printable reads back as one logical line.** The
physical lines join back after each soft break, the line's value keeps each soft
break as `=` and a line feed, and that value decodes to the bytes written. -/
theorem Writer.logicalLines_quoted (w : Writer) (hv : w.version = .v21) {group : Option String} {name : String}
    {p : Params} (hgroup : ∀ g ∈ group, IsName g) (hname : IsName name) (hp : p.Portable)
    (he : p.getAll "ENCODING" = ["QUOTED-PRINTABLE"]) {encoded : String} {bs : List UInt8}
    (hsoft : Encoding.SoftLines ['=', '\r', '\n'] encoded.toList bs) :
    ∃ value, (logicalLines (w.line false (w.contentLine group name p encoded))).map (·.text) =
        [w.contentLine group name p value] ∧
      Encoding.decodeQuotedPrintable (Encoding.encodeUtf8 value) = bs := by
  have hg : ∀ g ∈ group, g ≠ "" := fun g hg => (hgroup g hg).ne_empty
  obtain ⟨segs, hout, hsafe, hdecode, hnil, hlast⟩ := hsoft
  set H := (w.contentLine group name p "").toList with hH
  have hsegs : segs ≠ [] := by
    by_cases hbs : bs = []
    · rw [hnil hbs]
      exact List.cons_ne_nil _ _
    · obtain ⟨init, l, d, rfl, -⟩ := hlast hbs
      simp
  -- the head of the line, up to its colon, stands before the first line between soft breaks
  have hfirst : ∃ c r, H = c :: r ∧ Text.isBlank c = false := by
    obtain ⟨c, r, hcr, hc⟩ := w.contentLine_head p "" hgroup hname
    exact ⟨c, r, hcr, isBlank_eq_false_of_isNameChar hc⟩
  have hcolon : ∃ h₀, H = h₀ ++ [':'] := by
    rw [hH, w.contentLine_toList group name p "" hg]
    exact ⟨headChars (group.map String.toList) name.toList ++ (w.writtenParams p).flatMap WrittenParam.chars, by simp⟩
  have hclosing : ∃ l d, (Encoding.prependFirst H segs).getLast? = some (l ++ [d]) ∧ Encoding.Closing d := by
    by_cases hbs : bs = []
    · obtain ⟨h₀, hh₀⟩ := hcolon
      refine ⟨h₀, ':', ?_, by decide, by decide⟩
      rw [hnil hbs, hh₀]
      simp [Encoding.prependFirst]
    · obtain ⟨init, l, d, rfl, hd⟩ := hlast hbs
      obtain ⟨init', l', hl'⟩ := Encoding.prependFirst_closing H init l d
      exact ⟨l', d, by simp [hl'], hd⟩
  obtain ⟨t, ts, rfl⟩ := List.exists_cons_of_ne_nil hsegs
  have hprep : Encoding.prependFirst H (t :: ts) = (H ++ t) :: ts := rfl
  rw [hprep] at hclosing
  have hline : (w.line false (w.contentLine group name p encoded)).toList =
      crlfJoin (softBreakLines ((H ++ t) :: ts)) := by
    rw [crlfJoin_softBreakLines (List.cons_ne_nil _ _), ← hprep, Encoding.intercalate_prependFirst _ _ hsegs]
    simp only [Writer.line, Bool.false_and, Bool.false_eq_true, if_false, String.toList_append,
      w.contentLine_toList_append name p encoded hg, hout, ← hH]
    simp
  have hreads : ReadsAs (softBreakLines ((H ++ t) :: ts)) (['=', '\n'].intercalate ((H ++ t) :: ts)) := by
    obtain ⟨c, r, hcr, hc⟩ := hfirst
    refine readsAs_softBreakLines ⟨c, r ++ t, by rw [hcr, List.cons_append], hc⟩ ?_ hclosing
    exact mentions_of_infix ((w.quotedPrintable_infix_contentLine hv name hg he).trans List.infix_append_left)
  -- no physical line holds a line break
  have hunbroken : ∀ l ∈ softBreakLines ((H ++ t) :: ts), Text.Unbroken l := by
    have hH' : Text.Unbroken H := w.unbroken_contentLine hgroup hname hp (by simp)
    have ht : Text.Unbroken t := fun c hc => (hsafe t List.mem_cons_self c hc).2
    have hsegs' : ∀ x ∈ (H ++ t) :: ts, Text.Unbroken x := by
      intro x hx
      rcases List.mem_cons.1 hx with rfl | hx
      · simp [hH', ht]
      · exact fun c hc => (hsafe x (List.mem_cons_of_mem _ hx) c hc).2
    intro l hl
    obtain ⟨x, hx, hl' | hl'⟩ := mem_softBreakLines hl
    · exact hl' ▸ hsegs' x hx
    · rw [hl']
      simp [hsegs' x hx]
  have hlogical := logicalLines_crlfJoin [(softBreakLines ((H ++ t) :: ts), ['=', '\n'].intercalate ((H ++ t) :: ts))]
    (by simpa using hreads) (by simpa using hunbroken)
  refine ⟨String.ofList (['=', '\n'].intercalate (t :: ts)), ?_, ?_⟩
  · rw [← String.ofList_toList (s := w.line false _), hline]
    simp only [List.flatMap_cons, List.flatMap_nil, List.append_nil, List.map_cons, List.map_nil] at hlogical
    rw [hlogical, ← String.ofList_toList (s := w.contentLine group name p _), w.contentLine_toList_append name p _ hg,
      String.toList_ofList, ← hH, ← hprep, Encoding.intercalate_prependFirst _ _ hsegs]
  · rw [Encoding.encodeUtf8_ofList_ascii (Encoding.ascii_of_mem_intercalate (by simp) hsafe)]
    exact hdecode

/-- Before 3.0 no parameter value is caret-encoded: whatever the reader's
setting, written parameters read back with their values sanitized. -/
theorem Writer.parameters_writtenParams_v21 (w : Writer) (hv : w.version = .v21) (reader : Settings)
    (types : DataType.Registry) {p : Params} (hp : p.Portable) :
    parameters reader types ((w.writtenParams p).map WrittenParam.read) .v21 =
      ⟨p.multimap.flatMap fun nv => nv.2.map fun v => (nv.1, sanitize v)⟩ := by
  -- the writer with the reader's caret setting writes the same parameters
  let w' : Writer := { w with settings := { w.settings with caretEncoding := reader.caretEncoding } }
  have hv' : w'.version = .v21 := hv
  have hwritten : w'.writtenParams p = w.writtenParams p := by
    simp [Writer.writtenParams, Writer.encodedParamValue, hv, hv']
  have hback : ∀ v, w'.paramValueReadBack v = sanitize v := by
    simp [Writer.paramValueReadBack, hv']
  have h : parameters reader types ((w'.writtenParams p).map WrittenParam.read) w'.version = _ :=
    w'.parameters_writtenParams types rfl hp
  simpa only [hwritten, hv', hback] using h

theorem sanitize_isEmpty {s : String} (h : s ≠ "") : (sanitize s).isEmpty = false := by
  have hs : s.toList ≠ [] := by simpa using h
  obtain ⟨c, r, hcr⟩ := List.exists_cons_of_ne_nil hs
  simp only [sanitize, hcr]
  unfold sanitizeChars
  split <;> simp_all

theorem sanitize_quotedPrintable : sanitize "QUOTED-PRINTABLE" = "QUOTED-PRINTABLE" := rfl

theorem lower_quotedPrintable : Text.lower "QUOTED-PRINTABLE" = "quoted-printable" := by
  simp [Text.lower, Text.lowerAfter, Text.lowerChar]

/-- Decoding a quoted-printable value whose bytes the named character set reads
adds no warning: it gives the text with CR LF turned into LF, and the parameters
without `ENCODING` and `CHARSET`. -/
theorem decodeQuotedPrintable_clean {value charset t : String} {params : Params} (name : String) (line : Nat)
    (hcharset : params.get? "CHARSET" = some charset) (hne : charset.isEmpty = false)
    (hd : Charset.decode charset false (Encoding.decodeQuotedPrintable (Encoding.encodeUtf8 value)) = .ok t) :
    Quietly (decodeQuotedPrintable value params name line)
      (String.ofList (Encoding.lfLines t.toList), (params.erase "ENCODING").erase "CHARSET") := by
  have htext : Encoding.decodeQuotedPrintableText value charset =
      .ok (.clean (String.ofList (Encoding.lfLines t.toList))) := by
    simp only [Encoding.decodeQuotedPrintableText, hd]
  intro s
  refine ⟨s.types, ?_⟩
  simp only [decodeQuotedPrintable, hcharset, hne, Bool.false_eq_true, if_false, htext]
  rfl

/-- **A 2.1 text with a line break is written quoted-printable and read back.**
When the text with its line breaks made CR LF encodes in the character set and
decodes back, the writer writes the property unfolded, as that encoding in
quoted-printable with `ENCODING` and `CHARSET` set. The reader joins its physical
lines into one logical line, finds it quoted-printable, and decoding its value
gives the text back with each CR LF turned into LF and the two parameters
dropped, with no warning. -/
theorem quotedPrintable_reads_back (w : Writer) (hv : w.version = .v21) (reader : Settings)
    (types : DataType.Registry) (inner : CardWriter) (depth : Int) (fold : Bool) (card : Card)
    (self : Option Nat) {prop : Property} {value : String} {bytes : List UInt8}
    (hwritten : ((w.index.codecForProperty prop).writeText prop.value w.version).run'.1 = .ok (.written value))
    (hbreak : '\n' ∈ value.toList ∨ '\r' ∈ value.toList)
    (hgroup : ∀ g ∈ prop.group, IsName g) (hname : IsName prop.name)
    (hparams : (w.preparedParams card self prop).Portable)
    (hencode : Charset.encode (qpCharset (w.preparedParams card self prop))
      (String.ofList (Encoding.crlfLines value.toList)) = .ok bytes)
    (hdecode : Charset.decode (qpCharset (w.preparedParams card self prop)) false bytes =
      .ok (String.ofList (Encoding.crlfLines value.toList))) :
    ∃ encoded, Encoding.quotedPrintableText value (qpCharset (w.preparedParams card self prop)) = .ok encoded ∧
      Returns (writeProperty w inner depth fold card self prop)
        (w.line false (w.contentLine prop.group prop.name (qpParams (w.preparedParams card self prop)) encoded)) ∧
      ∃ text raw value',
        (logicalLines (w.line false (w.contentLine prop.group prop.name
          (qpParams (w.preparedParams card self prop)) encoded))).map (·.text) = [text] ∧
        parse text = some ⟨prop.group, prop.name, raw, value'⟩ ∧
        ((parameters reader types raw .v21).get? "ENCODING").any (Text.lower · == "quoted-printable") = true ∧
        ∀ line, Quietly (decodeQuotedPrintable value' (parameters reader types raw .v21) prop.name line)
          (String.ofList (Encoding.lfLines value.toList),
            ((parameters reader types raw .v21).erase "ENCODING").erase "CHARSET") := by
  set P := w.preparedParams card self prop
  obtain ⟨encoded, hencoded, hsoft⟩ := Encoding.quotedPrintableText_softLines hencode
  have hQ : (qpParams P).Portable := portable_qpParams hparams
  obtain ⟨value', hlines, hbytes⟩ := w.logicalLines_quoted hv hgroup hname hQ (getAll_qpParams_encoding P) hsoft
  -- the parameters read back are those written, sanitized
  have hread : ∀ m, Params.key m = m →
      (parameters reader types ((w.writtenParams (qpParams P)).map WrittenParam.read) .v21).getAll m =
        ((qpParams P).getAll m).map sanitize := by
    intro m hm
    rw [w.parameters_writtenParams_v21 hv reader types hQ]
    exact Params.getAll_regroup _ _ hm
  refine ⟨encoded, hencoded, writeProperty_quoted w inner depth fold card self prop hv hwritten hbreak hencoded,
    _, _, value', hlines, w.parse_contentLine_written value' hgroup hname hQ, ?_, fun line => ?_⟩
  · rw [Params.get?_eq_head?_getAll, hread _ (by decide), getAll_qpParams_encoding]
    simp [sanitize_quotedPrintable, lower_quotedPrintable]
  · have hcharset := hread "CHARSET" (by decide)
    rw [getAll_qpParams_charset] at hcharset
    have h := decodeQuotedPrintable_clean prop.name line
      (by rw [Params.get?_eq_head?_getAll, hcharset]; rfl) (sanitize_isEmpty (qpCharset_ne P))
      (by rw [hbytes]; exact Charset.decode_sanitize hdecode)
    rwa [String.toList_ofList, Encoding.lfLines_crlfLines] at h

/-- A 2.1 note of two lines. -/
def twoLineNote : Property := Property.make "NOTE" (.text (some "a\nb"))

/-- A 2.1 card of that note alone. -/
def twoLineNoteCard : Card := { version := .v21, properties := [twoLineNote] }

/-- The two-line note is written quoted-printable in UTF-8, and the reader
decodes it back to its text. -/
theorem twoLineNote_reads_back :
    ∃ encoded, Encoding.quotedPrintableText "a\nb" "UTF-8" = .ok encoded ∧
      Returns (writeProperty { version := .v21 } (writeCard { version := .v21 } 1) 0 true twoLineNoteCard (some 0)
          twoLineNote)
        (({ version := .v21 } : Writer).line false
          (({ version := .v21 } : Writer).contentLine none "NOTE" (qpParams {}) encoded)) ∧
      ∃ text raw value',
        (logicalLines (({ version := .v21 } : Writer).line false
          (({ version := .v21 } : Writer).contentLine none "NOTE" (qpParams {}) encoded))).map (·.text) = [text] ∧
        parse text = some ⟨none, "NOTE", raw, value'⟩ ∧
        ((parameters {} {} raw .v21).get? "ENCODING").any (Text.lower · == "quoted-printable") = true ∧
        ∀ line, Quietly (decodeQuotedPrintable value' (parameters {} {} raw .v21) "NOTE" line)
          (String.ofList (Encoding.lfLines "a\nb".toList), ((parameters {} {} raw .v21).erase "ENCODING").erase "CHARSET") := by
  have hutf8 : ∀ command, Charset.textCodec "UTF-8" command = .ok ⟨"utf_8", .utf8⟩ :=
    fun _ => Charset.textCodec_eq (by simp) rfl (by simp)
  have hescaped : escapeFor .v21 "a\nb" = "a\nb" := by decide +kernel
  have hcodec : defaultIndex.codecForProperty twoLineNote = Codec.text "NOTE" := by decide +kernel
  have hwrite := hescaped ▸ run'_writeText_text defaultIndex .v21 hcodec (rfl : twoLineNote.value = _)
  have hP : ({ version := .v21 } : Writer).preparedParams twoLineNoteCard (some 0) twoLineNote = {} := by
    decide +kernel
  have hcharset : qpCharset {} = "UTF-8" := rfl
  have hencode : Charset.encode (qpCharset {}) (String.ofList (Encoding.crlfLines "a\nb".toList)) =
      .ok [97, 13, 10, 98] := by
    simp only [hcharset, Charset.encode, hutf8]
    rfl
  have hdecode : Charset.decode (qpCharset {}) false [97, 13, 10, 98] =
      .ok (String.ofList (Encoding.crlfLines "a\nb".toList)) := by
    simp only [hcharset, Charset.decode, hutf8]
    rfl
  have h := quotedPrintable_reads_back { version := .v21 } rfl {} {} (writeCard { version := .v21 } 1) 0 true
    twoLineNoteCard (some 0) hwrite (.inl (by simp)) (by simp [twoLineNote, Property.make])
    ((isNameChars_iff _).mp (by decide)) (hP ▸ Params.Portable.of_entries (by simp)) (hP ▸ hencode) (hP ▸ hdecode)
  rw [hP] at h
  exact h

/-- Text of a line break and 62 letters: in the IDNA character set one label of
63 characters, the longest a label may be. -/
def idnaLabelText : String := String.ofList ('\n' :: List.replicate 62 'b')

theorem idnaLabelText_toList : idnaLabelText.toList = '\n' :: List.replicate 62 'b' := by
  unfold idnaLabelText
  exact String.toList_ofList

/-- A 2.1 note of that text in the IDNA character set. -/
def idnaNote : Property := Property.make "NOTE" (.text (some idnaLabelText)) (Params.ofList [("CHARSET", "idna")])

/-- A 2.1 card of that note alone. -/
def idnaNoteCard : Card := { version := .v21, properties := [idnaNote] }

/-- **A text that its character set reads back can fail to be written.** The
IDNA character set encodes `idnaLabelText` and decodes it back, but the writer
encodes the text with its line feed made CR LF, a label of 64 characters, which
is too long: writing the card fails. -/
theorem idnaNote_round_trips_but_fails :
    (Charset.encode "idna" idnaLabelText = .ok (Charset.charBytes idnaLabelText.toList) ∧
      Charset.decode "idna" false (Charset.charBytes idnaLabelText.toList) = .ok idnaLabelText) ∧
    write { version := .v21 } [idnaNoteCard] =
      .error (.codecFailed "encoding with 'idna' codec failed (UnicodeError: label too long)") := by
  have hidna : ∀ command, Charset.textCodec "idna" command = .ok ⟨"idna", .idna⟩ :=
    fun _ => Charset.textCodec_eq (by simp) rfl (by simp)
  have hescaped : escapeFor .v21 idnaLabelText = idnaLabelText := by decide +kernel
  have hcodec : defaultIndex.codecForProperty idnaNote = Codec.text "NOTE" := by decide +kernel
  have hwrite := hescaped ▸ run'_writeText_text defaultIndex .v21 hcodec (rfl : idnaNote.value = _)
  have hbreak : idnaLabelText.contains '\n' = true := by
    have hmem : '\n' ∈ idnaLabelText.toList := by
      rw [idnaLabelText_toList]
      exact List.mem_cons_self
    simpa only [String.contains_char_eq, decide_eq_true_eq] using hmem
  have hq : Encoding.quotedPrintableText idnaLabelText "idna" =
      .error (.codecFailed "encoding with 'idna' codec failed (UnicodeError: label too long)") := by
    simp only [Encoding.quotedPrintableText, Charset.encode, hidna]
    rfl
  refine ⟨⟨?_, ?_⟩, ?_⟩
  · simp only [Charset.encode, hidna]
    rfl
  · simp only [Charset.decode, hidna]
    rfl
  · apply write_singleton_fails
    rw [show nesting idnaNoteCard = 1 by decide +kernel]
    refine writeCard_fails_first _ _ _ _ _ rfl ?_
    exact writeProperty_unencodable _ _ _ _ _ _ _ rfl hwrite hbreak (show _ = some "idna" by decide +kernel) rfl hq

end VCard.Vcf
