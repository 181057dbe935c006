import VCard.Text.Category
/-! Quoted text literals.

Messages about a value quote it as a literal that a reader can copy back: the
text stands between single quotes, or between double quotes when it holds a
single quote and no double quote. Inside, the backslash and the chosen quote are
escaped, tab, line feed and carriage return are written `\t`, `\n`, `\r`, and any
other character that does not print is written by its code point in hex:
`\xhh` below U+0100, `\uhhhh` below U+10000 and `\Uhhhhhhhh` above. Printable
characters, ASCII or not, stand for themselves.

`quote` is `encode` with the chosen quote between its delimiters
(`quote_eq`), and a text without quotes, backslashes or control characters is
its own body (`encode_plain`). -/
namespace VCard.Text

/-- Lower-case hex digits of `n`, padded with zeros to `width`. -/
def hexPadded (width n : Nat) : List Char :=
  let ds := Nat.toDigits 16 n
  List.replicate (width - ds.length) '0' ++ ds

/-- The escape of a character that does not print. -/
def codeEscape (c : Char) : List Char :=
  let n := c.toNat
  if n < 0x100 then '\\' :: 'x' :: hexPadded 2 n
  else if n < 0x10000 then '\\' :: 'u' :: hexPadded 4 n
  else '\\' :: 'U' :: hexPadded 8 n

/-- The body of a literal delimited by `q`. -/
def encode (q : Char) : List Char → List Char
  | [] => []
  | c :: rest =>
    let e :=
      if c = '\\' then ['\\', '\\']
      else if c = q then ['\\', c]
      else if c = '\t' then ['\\', 't']
      else if c = '\n' then ['\\', 'n']
      else if c = '\r' then ['\\', 'r']
      else if isPrintable c then [c]
      else codeEscape c
    e ++ encode q rest

/-- The delimiter of a literal: a double quote only for text with a single quote
and no double quote. -/
def delimiter (s : String) : Char :=
  if s.toList.contains '\'' && !s.toList.contains '"' then '"' else '\''

/-- The literal of a text. -/
def quote (s : String) : String :=
  let q := delimiter s
  String.ofList (q :: encode q s.toList ++ [q])

theorem quote_eq (s : String) :
    (quote s).toList = delimiter s :: encode (delimiter s) s.toList ++ [delimiter s] := by
  simp [quote]

theorem encode_plain (q : Char) (cs : List Char)
    (h : ∀ c ∈ cs, c ≠ '\\' ∧ c ≠ q ∧ isPrintable c = true) : encode q cs = cs := by
  induction cs with
  | nil => rfl
  | cons c rest ih =>
    have hc := h c (by simp)
    have ht : c ≠ '\t' := by
      intro e; subst e; exact absurd hc.2.2 (by decide)
    have hn : c ≠ '\n' := by
      intro e; subst e; exact absurd hc.2.2 (by decide)
    have hr : c ≠ '\r' := by
      intro e; subst e; exact absurd hc.2.2 (by decide)
    simp [encode, hc.1, hc.2.1, hc.2.2, ht, hn, hr,
      ih (fun d hd => h d (List.mem_cons_of_mem _ hd))]

end VCard.Text
