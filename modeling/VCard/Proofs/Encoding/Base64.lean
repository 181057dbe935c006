import Mathlib
import VCard.DataUri
/-! Base64 and data URIs read back what they write.

Base64 text is read one character at a time by `Base64State.feed`. Written
text is a list of groups of four characters; a full group takes the reader from
one state between groups to the next with its three bytes added
(`run_group3`), and a last group of one or two bytes ends the reading at its
closing `=` (`run_group1`, `run_group2`). `decodeBase64_encodeBase64` follows.
The characters written are all ASCII, and none of them is blank, a backslash or a
colon (`Base64Safe`), so a reader that trims, unescapes, drops blanks, refuses
other characters or looks for a `data:` scheme sees the text unchanged.

A data URI as written, `data:` then the media type, `;base64,` and the base64
payload, is read back whole when its media type holds no `,` or `;`
(`DataUri.parse_text`). -/
namespace VCard.Encoding

/-- The alphabet as a list of characters, so that facts about it are checked
without decoding the text it is written as. -/
theorem base64Alphabet_eq : base64Alphabet =
    ['A', 'B', 'C', 'D', 'E', 'F', 'G', 'H', 'I', 'J', 'K', 'L', 'M', 'N', 'O', 'P', 'Q', 'R', 'S', 'T', 'U', 'V', 'W', 'X', 'Y', 'Z',
    'a', 'b', 'c', 'd', 'e', 'f', 'g', 'h', 'i', 'j', 'k', 'l', 'm', 'n', 'o', 'p', 'q', 'r', 's', 't', 'u', 'v', 'w', 'x', 'y', 'z',
    '0', '1', '2', '3', '4', '5', '6', '7', '8', '9', '+', '/'] := by
  decide +kernel

/-- Each of the 64 characters reads as its value, is no padding, is ASCII and is
neither blank nor a backslash nor a colon. -/
theorem base64Char_spec : ∀ v < 64,
    base64Value? (base64Char v) = some v ∧ base64Char v ≠ '=' ∧ (base64Char v).toNat < 0x80 ∧
      Text.isBlank (base64Char v) = false ∧ base64Char v ≠ '\\' ∧ base64Char v ≠ ':' := by
  simp only [base64Char, base64Alphabet_eq]
  decide +kernel

/-- The state between groups of four: the bytes read so far, last first. -/
def Base64State.between (out : List UInt8) : Base64State := { out }

/-- A character of the alphabet takes the reader one sextet further. -/
theorem feed_char {st : Base64State} {v : Nat} (hv : v < 64) :
    st.feed (base64Char v) = some (match st.quad with
      | 0 => { st with pads := 0, quad := 1, left := v }
      | 1 => { st with pads := 0, quad := 2, out := UInt8.ofNat (st.left * 4 + v / 16) :: st.out, left := v % 16 }
      | 2 => { st with pads := 0, quad := 3, out := UInt8.ofNat (st.left * 16 + v / 4) :: st.out, left := v % 4 }
      | _ => { st with pads := 0, quad := 0, out := UInt8.ofNat (st.left * 64 + v) :: st.out, left := 0 }) := by
  obtain ⟨hval, hne, -⟩ := base64Char_spec v hv
  simp only [Base64State.feed, beq_iff_eq, hne, if_false, hval]
  rcases st with ⟨out, _ | _ | _ | q, left, pads⟩ <;> rfl

/-- A character that does not close the data moves the reader on by one. -/
theorem run_cons_of_feed {st st' : Base64State} {c : Char} (h : st.feed c = some st') (rest : List Char) :
    st.run (c :: rest) = st'.run rest := by
  rw [Base64State.run, h]

/-- The six-bit pieces of three bytes put back together. -/
theorem bytes_of_sextets (a : Nat) {b c : Nat} (hb : b < 256) (hc : c < 256) :
    (a * 65536 + b * 256 + c) / 262144 * 4 + (a * 65536 + b * 256 + c) / 4096 % 64 / 16 = a ∧
      (a * 65536 + b * 256 + c) / 4096 % 64 % 16 * 16 + (a * 65536 + b * 256 + c) / 64 % 64 / 4 = b ∧
      (a * 65536 + b * 256 + c) / 64 % 64 % 4 * 64 + (a * 65536 + b * 256 + c) % 64 = c := by
  omega

/-- A full group of three bytes is read back between two groups. -/
theorem run_group3 (out : List UInt8) (a b c : UInt8) (rest : List Char) :
    (Base64State.between out).run (encodeGroup [a, b, c] ++ rest) =
      (Base64State.between (c :: b :: a :: out)).run rest := by
  have ha := a.toNat_lt
  have hb := b.toNat_lt
  have hc := c.toNat_lt
  simp only [encodeGroup, List.cons_append, List.nil_append]
  rw [run_cons_of_feed (feed_char (by omega))]
  simp only [Base64State.between]
  rw [run_cons_of_feed (feed_char (by omega))]
  simp only
  rw [run_cons_of_feed (feed_char (by omega))]
  simp only
  rw [run_cons_of_feed (feed_char (by omega))]
  simp only
  obtain ⟨h1, h2, h3⟩ := bytes_of_sextets a.toNat hb hc
  rw [h1, h2, h3, UInt8.ofNat_toNat, UInt8.ofNat_toNat, UInt8.ofNat_toNat]

/-- A last group of two bytes is read up to its `=`, which ends the text. -/
theorem run_group2 (out : List UInt8) (a b : UInt8) (rest : List Char) :
    ∃ left, (Base64State.between out).run (encodeGroup [a, b] ++ rest) = (⟨b :: a :: out, 3, left, 0⟩, true) := by
  have ha := a.toNat_lt
  have hb := b.toNat_lt
  simp only [encodeGroup, List.cons_append, List.nil_append]
  rw [run_cons_of_feed (feed_char (by omega))]
  simp only [Base64State.between]
  rw [run_cons_of_feed (feed_char (by omega))]
  simp only
  rw [run_cons_of_feed (feed_char (by omega))]
  obtain ⟨h1, h2, -⟩ := bytes_of_sextets a.toNat hb (Nat.zero_lt_succ 255)
  simp only [Nat.add_zero] at h1 h2
  simp only [h1, h2, UInt8.ofNat_toNat]
  exact ⟨_, rfl⟩

/-- A last group of one byte is read up to its second `=`, which ends the text. -/
theorem run_group1 (out : List UInt8) (a : UInt8) (rest : List Char) :
    ∃ left, (Base64State.between out).run (encodeGroup [a] ++ rest) = (⟨a :: out, 2, left, 1⟩, true) := by
  have ha := a.toNat_lt
  simp only [encodeGroup, List.cons_append, List.nil_append]
  rw [run_cons_of_feed (feed_char (by omega))]
  simp only [Base64State.between]
  rw [run_cons_of_feed (feed_char (by omega))]
  obtain ⟨h1, -, -⟩ := bytes_of_sextets a.toNat (Nat.zero_lt_succ 255) (Nat.zero_lt_succ 255)
  simp only [Nat.add_zero, Nat.zero_mul] at h1
  simp only [h1, UInt8.ofNat_toNat]
  exact ⟨_, rfl⟩

/-- The groups written for any bytes are read back onto what was read before;
the reading ends after a group, or at the `=` of a last short group. -/
theorem run_go (out : List UInt8) : ∀ (fuel : Nat) (bs : List UInt8), bs.length ≤ fuel →
    ∃ st, (Base64State.between out).run (encodeBase64.go fuel bs) = (st, st.quad != 0) ∧
      st.out = bs.reverse ++ out
  | 0, [], _ | _ + 1, [], _ => ⟨Base64State.between out, rfl, rfl⟩
  | fuel + 1, [a], _ => by
    obtain ⟨left, h⟩ := run_group1 out a (encodeBase64.go fuel [])
    refine ⟨⟨a :: out, 2, left, 1⟩, ?_, rfl⟩
    rw [show encodeBase64.go (fuel + 1) [a] = encodeGroup [a] ++ encodeBase64.go fuel [] from rfl, h]
    rfl
  | fuel + 1, [a, b], _ => by
    obtain ⟨left, h⟩ := run_group2 out a b (encodeBase64.go fuel [])
    refine ⟨⟨b :: a :: out, 3, left, 0⟩, ?_, rfl⟩
    rw [show encodeBase64.go (fuel + 1) [a, b] = encodeGroup [a, b] ++ encodeBase64.go fuel [] from rfl, h]
    rfl
  | fuel + 1, a :: b :: c :: rest, hlen => by
    obtain ⟨st, hrun, hout⟩ := run_go (c :: b :: a :: out) fuel rest (by simp at hlen; omega)
    refine ⟨st, ?_, by simp [hout]⟩
    rw [show encodeBase64.go (fuel + 1) (a :: b :: c :: rest) =
      encodeGroup [a, b, c] ++ encodeBase64.go fuel rest from rfl, run_group3, hrun]

/-- What every character of written base64 is. -/
structure Base64Safe (c : Char) : Prop where
  ascii : c.toNat < 0x80
  not_blank : Text.isBlank c = false
  not_backslash : c ≠ '\\'
  not_colon : c ≠ ':'

theorem safeChar_base64Char (v : Nat) : Base64Safe (base64Char v) := by
  by_cases hv : v < 64
  · obtain ⟨-, -, h1, h2, h3, h4⟩ := base64Char_spec v hv
    exact ⟨h1, h2, h3, h4⟩
  · have : base64Char v = 'A' := by
      simp only [base64Char, base64Alphabet_eq]
      exact List.getD_eq_default _ _ (by simp; omega)
    rw [this]
    exact ⟨by decide, by decide, by decide, by decide⟩

theorem safeChar_pad : Base64Safe '=' := ⟨by decide, by decide, by decide, by decide⟩

theorem safeChar_of_mem_encodeGroup {g : List UInt8} {c : Char} (h : c ∈ encodeGroup g) : Base64Safe c := by
  match g with
  | [] => simp [encodeGroup] at h
  | [_] | [_, _] | _ :: _ :: _ :: _ =>
    simp only [encodeGroup, List.mem_cons, List.not_mem_nil, or_false] at h
    rcases h with h | h | h | h <;> simp only [h, safeChar_base64Char, safeChar_pad]

theorem safeChar_of_mem_go {c : Char} : ∀ {fuel : Nat} {bs : List UInt8},
    c ∈ encodeBase64.go fuel bs → Base64Safe c
  | 0, _, h | _ + 1, [], h => by simp [encodeBase64.go] at h
  | fuel + 1, b :: bs, h => by
    rw [show encodeBase64.go (fuel + 1) (b :: bs) =
      encodeGroup ((b :: bs).take 3) ++ encodeBase64.go fuel ((b :: bs).drop 3) from rfl,
      List.mem_append] at h
    exact h.elim safeChar_of_mem_encodeGroup safeChar_of_mem_go

theorem safeChar_of_mem_encodeBase64 {bs : List UInt8} {c : Char} (h : c ∈ (encodeBase64 bs).toList) :
    Base64Safe c :=
  safeChar_of_mem_go (by simpa [encodeBase64] using h)

/-- **Base64 text reads back the bytes it was written from.** -/
theorem decodeBase64_encodeBase64 (bs : List UInt8) : decodeBase64 (encodeBase64 bs) = .ok bs := by
  obtain ⟨st, hrun, hout⟩ := run_go [] bs.length bs le_rfl
  have hascii : (encodeBase64 bs).toList.any (fun c => c.toNat ≥ 0x80) = false := by
    rw [List.any_eq_false]
    intro c hc
    simpa using (safeChar_of_mem_encodeBase64 hc).ascii
  have hrun' : Base64State.run {} (encodeBase64 bs).toList = (st, st.quad != 0) := by
    rw [encodeBase64, String.toList_ofList]
    exact hrun
  simp only [decodeBase64, hascii, hrun', Bool.false_eq_true, if_false]
  simp [hout]

end VCard.Encoding

namespace VCard.Text

theorem dropWhile_blank_of_head {cs : List Char} (h : ∀ c ∈ cs.head?, isBlank c = false) :
    cs.dropWhile isBlank = cs := by
  cases cs with
  | nil => rfl
  | cons c rest => exact List.dropWhile_cons_of_neg (by simpa using h c rfl)

/-- Text that begins and ends with no blank is its own trimming. -/
theorem trimChars_of_ends {cs : List Char} (hhead : ∀ c ∈ cs.head?, isBlank c = false)
    (hlast : ∀ c ∈ cs.getLast?, isBlank c = false) : trimChars cs = cs := by
  rw [trimChars, trimLeftChars, dropWhile_blank_of_head hhead, trimRightChars,
    dropWhile_blank_of_head (by rwa [List.head?_reverse]), List.reverse_reverse]

end VCard.Text

namespace VCard.DataUri

open Text

theorem text_toList (m : String) (d : List UInt8) :
    (text ⟨some m, d⟩).toList =
      "data:".toList ++ (m.toList ++ ";base64".toList ++ ',' :: (Encoding.encodeBase64 d).toList) := by
  simp [text, String.toList_append]

/-- A data URI as written starts with `data:` and ends with `,` or a base64
character, neither of them blank. -/
theorem trimChars_text (m : String) (d : List UInt8) :
    trimChars (text ⟨some m, d⟩).toList = (text ⟨some m, d⟩).toList := by
  rw [text_toList]
  refine trimChars_of_ends (by simp [show "data:".toList = ['d', 'a', 't', 'a', ':'] from rfl]; decide) ?_
  intro c hc
  simp only [List.getLast?_append, List.getLast?_cons, Option.some_or, Option.mem_def, Option.some.injEq] at hc
  subst hc
  cases hb : (Encoding.encodeBase64 d).toList.getLast? with
  | none => decide
  | some x => exact (Encoding.safeChar_of_mem_encodeBase64 (List.mem_of_getLast? hb)).not_blank

/-- The first comma after a media type without one closes the `;base64` header. -/
theorem findIdx?_comma {m : List Char} (hm : ',' ∉ m) (rest : List Char) :
    (m ++ ";base64".toList ++ ',' :: rest).findIdx? (· == ',') = some (m.length + 7) := by
  have hnone : m.findIdx? (· == ',') = none := by
    rw [List.findIdx?_eq_none_iff]
    intro c hc
    simpa using fun h : c = ',' => hm (h ▸ hc)
  rw [List.append_assoc, List.findIdx?_append, hnone, show ";base64".toList = [';', 'b', 'a', 's', 'e', '6', '4'] from rfl]
  simp [List.findIdx?_cons]
  omega

theorem splitBase64_marked (m : List Char) : splitBase64 (m ++ ";base64".toList) = (m, true) := by
  have hlen : (m ++ ";base64".toList).length - 7 = m.length := by simp
  simp only [splitBase64, hlen]
  simp [show ";base64".toList = [';', 'b', 'a', 's', 'e', '6', '4'] from rfl, lowerChars, lowerChar]

/-- **A data URI reads back as written** when its media type holds no `,` or `;`
and is not empty: the media type and the bytes come back. -/
theorem parse_text {m : String} (d : List UInt8) (hm : m ≠ "") (hsep : ∀ c ∈ m.toList, c ≠ ',' ∧ c ≠ ';') :
    parse (text ⟨some m, d⟩) = .ok ⟨some m, d⟩ := by
  unfold parse
  rw [trimChars_text, text_toList]
  have h5 : "data:".toList.length = 5 := rfl
  have hdata : lowerChars "data:".toList = "data:".toList := by
    simp [show "data:".toList = ['d', 'a', 't', 'a', ':'] from rfl, lowerChars, lowerChar]
  have hcomma : ',' ∉ m.toList := fun h => (hsep _ h).1 rfl
  have hheader : (m.toList ++ ";base64".toList).length = m.toList.length + 7 := by simp
  have htake : (m.toList ++ ";base64".toList ++ ',' :: (Encoding.encodeBase64 d).toList).take (m.toList.length + 7) =
      m.toList ++ ";base64".toList := List.take_left' hheader
  have hdrop : (m.toList ++ ";base64".toList ++ ',' :: (Encoding.encodeBase64 d).toList).drop (m.toList.length + 7 + 1) =
      (Encoding.encodeBase64 d).toList := by
    rw [show m.toList ++ ";base64".toList ++ ',' :: (Encoding.encodeBase64 d).toList =
      (m.toList ++ ";base64".toList ++ [',']) ++ (Encoding.encodeBase64 d).toList by simp]
    exact List.drop_left' (by simp)
  have hfirst : m.toList.takeWhile (· != ';') = m.toList :=
    List.takeWhile_eq_self_iff.mpr fun c hc => by simpa using (hsep c hc).2
  have hne : m.toList.isEmpty = false := by simpa using hm
  simp only [List.take_left' h5, List.drop_left' h5, hdata, bne_self_eq_false, Bool.false_eq_true, if_false,
    findIdx?_comma hcomma, htake, splitBase64_marked, hdrop, hne, hfirst, if_true, String.ofList_toList,
    Encoding.decodeBase64_encodeBase64]

end VCard.DataUri
