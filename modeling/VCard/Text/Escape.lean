/-! Escaping in property values (RFC 6350 §3.4).

In a text value a backslash, comma and semicolon are written `\\`, `\,` and `\;`,
and a line break (CR LF, CR or LF) is written `\n` unless line breaks are kept
literally, as vCard 2.1 does. Reading turns `\n` and `\N` into a line feed and
`\\`, `\,`, `\;` into the character; any other escape stays as it is, and so does a
backslash at the very end.

List values separate their items by a comma (or a semicolon); structured values
separate their components by semicolons and each component is a comma list. A
separator counts only where it is not escaped, and the pieces are unescaped
after splitting.

Text without separators, backslashes or line breaks is its own escape
(`escapeChars_plain`). -/
namespace VCard.Text

/-- Escapes backslash, comma and semicolon, and line breaks when `newlines`. -/
def escapeChars (newlines : Bool) : List Char → List Char
  | [] => []
  | '\\' :: r => '\\' :: '\\' :: escapeChars newlines r
  | ',' :: r => '\\' :: ',' :: escapeChars newlines r
  | ';' :: r => '\\' :: ';' :: escapeChars newlines r
  | '\r' :: '\n' :: r =>
    if newlines then '\\' :: 'n' :: escapeChars newlines r else '\r' :: '\n' :: escapeChars newlines r
  | '\r' :: r => if newlines then '\\' :: 'n' :: escapeChars newlines r else '\r' :: escapeChars newlines r
  | '\n' :: r => if newlines then '\\' :: 'n' :: escapeChars newlines r else '\n' :: escapeChars newlines r
  | c :: r => c :: escapeChars newlines r

def escape (s : String) (newlines : Bool := true) : String :=
  String.ofList (escapeChars newlines s.toList)

/-- The character an escape stands for, as the list it unescapes to. -/
def unescapePair (c : Char) : List Char :=
  if c == 'n' || c == 'N' then ['\n']
  else if c == '\\' || c == ',' || c == ';' then [c]
  else ['\\', c]

/-- Reads escapes back. -/
def unescapeChars : List Char → List Char
  | [] => []
  | ['\\'] => ['\\']
  | '\\' :: c :: r => unescapePair c ++ unescapeChars r
  | c :: r => c :: unescapeChars r

def unescape (s : String) : String := String.ofList (unescapeChars s.toList)

/-- Splits at every `sep` that no backslash escapes; the pieces keep their escapes.
`cur` is the current piece, reversed. -/
def splitUnescapedFrom (sep : Char) : List Char → List Char → List (List Char)
  | [], cur => [cur.reverse]
  | '\\' :: c :: r, cur => splitUnescapedFrom sep r (c :: '\\' :: cur)
  | c :: r, cur =>
    if c == sep then cur.reverse :: splitUnescapedFrom sep r []
    else splitUnescapedFrom sep r (c :: cur)

def splitUnescaped (sep : Char) (cs : List Char) : List (List Char) := splitUnescapedFrom sep cs []

/-- The items of a list value, unescaped; no items in the empty text. Only a
delimiter of one character separates anything. -/
def splitList (s : String) (delimiter : String := ",") : List String :=
  if s.isEmpty then []
  else
    let pieces := match delimiter.toList with
      | [d] => splitUnescaped d s.toList
      | _ => [s.toList]
    pieces.map (fun p => String.ofList (unescapeChars p))

/-- A list value of the items, each escaped. -/
def joinList (items : List String) (delimiter : String := ",") : String :=
  delimiter.intercalate (items.map (escape ·))

/-- The components of a structured value, each a list of items. -/
def splitStructured (s : String) : List (List String) :=
  (splitUnescaped ';' s.toList).map (fun p => splitList (String.ofList p))

/-- A component of a structured value: absent, one text, or a list of texts. -/
inductive Component where
  | absent
  | single (s : String)
  | many (items : List String)
  deriving Repr, DecidableEq

/-- A structured value of the components. -/
def joinStructured (cs : List Component) : String :=
  ";".intercalate (cs.map fun
    | .absent => ""
    | .single s => escape s
    | .many items => joinList items)

theorem escapeChars_plain (cs : List Char)
    (h : ∀ c ∈ cs, c ≠ '\\' ∧ c ≠ ',' ∧ c ≠ ';' ∧ c ≠ '\r' ∧ c ≠ '\n') :
    escapeChars true cs = cs := by
  induction cs with
  | nil => rfl
  | cons c r ih =>
    have hc := h c (by simp)
    have ih := ih (fun d hd => h d (List.mem_cons_of_mem _ hd))
    match c, hc with
    | c, ⟨h1, h2, h3, h4, h5⟩ =>
      unfold escapeChars
      split <;> simp_all

end VCard.Text
