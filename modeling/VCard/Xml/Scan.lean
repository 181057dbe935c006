import VCard.Xml.Char
/-! Scanning XML text into tokens.

Outside elements (before the root, in the document type declaration and after
the root) the text is a sequence of tokens: blanks, comments, processing
instructions, markup declarations opening with `<!`, literals, names and the
punctuation of declarations. `prologToken` reads one of them. Comments,
processing instructions and references are scanned by the same functions
inside elements.

Scanning a token ends in one of three ways: the token and the offset just past
it, the offset of the first character that cannot continue it, or the end of
the input before it is complete. Offsets count characters from the start of
the document. -/
namespace VCard.Xml

/-- A failure to read a document: the kind of fault and its character offset. -/
structure ParseFailure where
  message : String
  offset : Nat
  deriving Repr

/-- The line (from 1) and column (from 0) of an offset. -/
def lineColumn (src : List Char) (offset : Nat) : Nat × Nat :=
  let rec go : List Char → Nat → Nat → Nat → Nat × Nat
    | [], _, line, col => (line, col)
    | _ :: _, 0, line, col => (line, col)
    | '\r' :: '\n' :: r, n + 1, line, _ =>
      if n == 0 then (line + 1, 0) else go r (n - 1) (line + 1) 0
    | '\r' :: r, n + 1, line, _ => go r n (line + 1) 0
    | '\n' :: r, n + 1, line, _ => go r n (line + 1) 0
    | _ :: r, n + 1, line, col => go r n line (col + 1)
  go src offset 1 0

/-- The message of a failure, with its line and column. -/
def ParseFailure.render (src : String) (f : ParseFailure) : String :=
  let (line, col) := lineColumn src.toList f.offset
  f.message ++ ": line " ++ toString line ++ ", column " ++ toString col

def fail {α : Type} (message : String) (offset : Nat) : Except ParseFailure α := .error ⟨message, offset⟩

def invalidToken {α : Type} (offset : Nat) : Except ParseFailure α :=
  fail "not well-formed (invalid token)" offset

def unclosedToken {α : Type} (offset : Nat) : Except ParseFailure α := fail "unclosed token" offset

/-- How scanning part of a token ends: at the offset just past it, at a
character that cannot continue it, or at the end of the input. -/
inductive Reach where
  | ends (next : Nat)
  | breaks (offset : Nat)
  | incomplete
  deriving Repr

/-- The rest of a comment after its `<!--`: it ends at the first `--`, which
must be followed by `>`. -/
def commentBody : List Char → Nat → Reach
  | [], _ => .incomplete
  | c :: r, pos =>
    if !isXmlChar c then .breaks pos
    else if c == '-' then
      match r with
      | [] => .incomplete
      | '-' :: r2 =>
        match r2 with
        | [] => .incomplete
        | '>' :: _ => .ends (pos + 3)
        | _ => .breaks (pos + 2)
      | _ => commentBody r (pos + 1)
    else commentBody r (pos + 1)

/-- A comment after its `<!-`. -/
def scanComment (cs : List Char) (pos : Nat) : Reach :=
  match cs with
  | [] => .incomplete
  | c :: r => if c != '-' then .breaks pos else commentBody r (pos + 1)

/-- How a processing instruction ends: whether its target is `xml` (so that it
is an XML declaration), where the target ends and the offset past `?>`; or
where it breaks, or the end of the input. -/
inductive InstructionEnd where
  | ends (declaration : Bool) (targetEnd : Nat) (next : Nat)
  | breaks (offset : Nat)
  | incomplete

/-- The text of a processing instruction after the blank that follows its
target, up to `?>`. -/
def instructionBody : List Char → Nat → Reach
  | [], _ => .incomplete
  | c :: r, pos =>
    if !isXmlChar c then .breaks pos
    else if c == '?' then
      match r with
      | [] => .incomplete
      | '>' :: _ => .ends (pos + 2)
      | _ => instructionBody r (pos + 1)
    else instructionBody r (pos + 1)

/-- A processing instruction after its `<?`. The target is a name, followed by
a blank or `?>`; the target `xml` makes the instruction an XML declaration,
and `xml` spelt with capitals is refused where the target ends. -/
def scanInstruction (cs : List Char) (pos : Nat) : InstructionEnd :=
  match cs with
  | [] => .incomplete
  | c :: _ =>
    if !isNameStart c then .breaks pos
    else
      let target := cs.takeWhile isNameChar
      let targetEnd := pos + target.length
      let declaration := String.ofList target == "xml"
      let refused := !declaration && String.ofList (target.map Char.toLower) == "xml"
      match cs.drop target.length with
      | [] => .incomplete
      | d :: r =>
        if isSpace d then
          if refused then .breaks targetEnd
          else match instructionBody r (targetEnd + 1) with
            | .ends next => .ends declaration targetEnd next
            | .breaks p => .breaks p
            | .incomplete => .incomplete
        else if d == '?' then
          if refused then .breaks targetEnd
          else match r with
            | [] => .incomplete
            | '>' :: _ => .ends declaration targetEnd (targetEnd + 2)
            | _ => .breaks (targetEnd + 1)
        else .breaks targetEnd

def isHexDigit (c : Char) : Bool := c.isDigit || ('a' ≤ c && c ≤ 'f') || ('A' ≤ c && c ≤ 'F')

/-- The value of a run of digits in a base. -/
def digitsValue (base : Nat) (ds : List Char) : Nat :=
  ds.foldl (fun acc d =>
    acc * base + (if d.isDigit then d.toNat - 48 else if d ≤ 'F' then d.toNat - 55 else d.toNat - 87)) 0

/-- A reference: to an entity by name, or to a character by its number. -/
inductive Reference where
  | entity (name : String)
  | char (code : Nat)

/-- How a reference ends: the reference and the offset past its `;`, a
character that breaks it, or the end of the input. -/
inductive ReferenceEnd where
  | ends (ref : Reference) (next : Nat)
  | breaks (offset : Nat)
  | incomplete

/-- A reference after its `&`: a name, `#` and decimal digits, or `#x` and hex
digits, closed by `;`. -/
def scanReference (cs : List Char) (pos : Nat) : ReferenceEnd :=
  match cs with
  | [] => .incomplete
  | '#' :: r =>
    let (base, digits, skip) := match r with
      | 'x' :: more => (16, more.takeWhile isHexDigit, 2)
      | more => (10, more.takeWhile Char.isDigit, 1)
    let after := pos + skip + digits.length
    match cs.drop (skip + digits.length) with
    | [] => .incomplete
    | ';' :: _ => if digits.isEmpty then .breaks after else .ends (.char (digitsValue base digits)) (after + 1)
    | _ => .breaks after
  | c :: r =>
    if !isNameStart c then .breaks pos
    else
      let name := c :: r.takeWhile isNameChar
      let after := pos + name.length
      match cs.drop name.length with
      | [] => .incomplete
      | ';' :: _ => .ends (.entity (String.ofList name)) (after + 1)
      | _ => .breaks after

/-- The character a character reference stands for, unless it is one no
document may hold. -/
def referencedChar (n : Nat) : Option Char :=
  if n ≥ 0x110000 || (0xD800 ≤ n && n ≤ 0xDFFF) then none
  else
    let c := Char.ofNat n
    if isXmlChar c then some c else none

/-- The characters of the five entities every document knows. -/
def predefinedEntity (name : String) : Option Char :=
  match name with
  | "lt" => some '<'
  | "gt" => some '>'
  | "amp" => some '&'
  | "quot" => some '"'
  | "apos" => some '\''
  | _ => none

/-- The tokens outside elements. -/
inductive PrologToken where
  /-- A run of blanks. -/
  | blank
  /-- A processing instruction other than the XML declaration. -/
  | instruction
  /-- The XML declaration: the text between `<?xml` and `?>`, and where it starts. -/
  | declaration (body : List Char) (bodyOffset : Nat)
  | comment
  /-- `<!` and a keyword such as `DOCTYPE` or `ENTITY`. -/
  | declOpen (keyword : String)
  /-- `<![`, which opens a conditional section. -/
  | condOpen
  /-- `]]>`, which closes a conditional section. -/
  | condClose
  /-- `<` and a name: the start of the root element. -/
  | instanceStart
  /-- A quoted literal: its text and where the text starts. -/
  | literal (text : List Char) (textOffset : Nat)
  /-- A parameter entity reference `%name;`. -/
  | paramRef
  /-- A `%` before a blank, as in a parameter entity declaration. -/
  | percent
  | name (text : String)
  /-- A name with a prefix, `p:local`. -/
  | prefixedName (text : String)
  /-- A name token that is not a name, such as one starting with a digit. -/
  | nmtoken
  /-- `#` and a name, such as `#PCDATA`. -/
  | poundName (text : String)
  /-- A name followed by `?`, `*` or `+`. -/
  | repeatedName
  | openBracket
  | closeBracket
  | openParen
  /-- `)` and the `?`, `*` or `+` right after it, if any. -/
  | closeParen (suffix : Option Char)
  /-- `|`. -/
  | choice
  | comma
  /-- `>`. -/
  | declClose

/-- The outcome of scanning one token outside elements. -/
inductive Scan where
  | token (t : PrologToken) (next : Nat)
  | invalid (offset : Nat)
  | incomplete
  | finished

/-- The kinds of name token, as a name is scanned; `colon` is a name just
followed by a colon, which the next character makes a prefixed name or a name
token. -/
inductive NameKind where
  | plain
  | prefixed
  | token
  | colon

/-- How a name token ends. -/
inductive NameRun where
  | ends (kind : NameKind) (next : Nat)
  | repeated (next : Nat)
  | breaks (offset : Nat)
  | incomplete

/-- The marks that end a name token besides blanks. -/
def endsName (c : Char) : Bool := c == '>' || c == ')' || c == ',' || c == '|' || c == '[' || c == '%'

/-- The rest of a name token outside elements. A blank or one of `>`, `)`, `,`,
`|`, `[` and `%` ends it; `?`, `*` or `+` ends a name with a repetition mark.
One colon between name characters makes a prefixed name; any other colon makes
a name token. -/
def nameRun : List Char → Nat → NameKind → NameRun
  | [], _, .colon => .incomplete
  | [], pos, k => .ends k pos
  | c :: r, pos, .colon =>
    if isNameChar c then nameRun r (pos + 1) .prefixed
    else if c.toNat ≥ 0x80 then .breaks pos
    else if isSpace c || endsName c then .ends .token pos
    else if c == ':' then nameRun r (pos + 1) .token
    else .breaks pos
  | c :: r, pos, k =>
    if isNameChar c then nameRun r (pos + 1) k
    else if c.toNat ≥ 0x80 then .breaks pos
    else if isSpace c || endsName c then .ends k pos
    else if c == ':' then nameRun r (pos + 1) (match k with | .plain => .colon | _ => .token)
    else if c == '+' || c == '*' || c == '?' then
      match k with
      | .token => .breaks pos
      | _ => .repeated (pos + 1)
    else .breaks pos

/-- The rest of a quoted literal up to its closing quote, which must be
followed by a blank, `>`, `%`, `[` or the end of the input. -/
def literalEnd (quote : Char) : List Char → Nat → Reach
  | [], _ => .incomplete
  | c :: r, pos =>
    if !isXmlChar c then .breaks pos
    else if c == quote then
      match r with
      | [] => .ends (pos + 1)
      | d :: _ => if isSpace d || d == '>' || d == '%' || d == '[' then .ends (pos + 1) else .breaks (pos + 1)
    else literalEnd quote r (pos + 1)

/-- A markup declaration after its `<!`: a comment, `[` or a keyword of ASCII
letters followed by a blank or a `%` that starts a name. -/
def scanDeclOpen (cs : List Char) (pos : Nat) : Scan :=
  match cs with
  | [] => .incomplete
  | '-' :: r =>
    match scanComment r (pos + 1) with
    | .ends next => .token .comment next
    | .breaks p => .invalid p
    | .incomplete => .incomplete
  | '[' :: _ => .token .condOpen (pos + 1)
  | c :: _ =>
    if !isAsciiNameStart c then .invalid pos
    else
      let keyword := cs.takeWhile isAsciiNameStart
      let after := pos + keyword.length
      let opened : Scan := .token (.declOpen (String.ofList keyword)) after
      match cs.drop keyword.length with
      | [] => .incomplete
      | '%' :: r =>
        match r with
        | [] => .incomplete
        | d :: _ => if isSpace d || d == '%' then .invalid after else opened
      | d :: _ => if isSpace d then opened else .invalid after

/-- What follows a `%`: a parameter entity reference, or a lone `%` before a
blank or another `%`. -/
def scanPercent (cs : List Char) (pos : Nat) : Scan :=
  match cs with
  | [] => .incomplete
  | c :: r =>
    if isNameStart c then
      let rest := r.takeWhile isNameChar
      let after := pos + 1 + rest.length
      match r.drop rest.length with
      | [] => .incomplete
      | ';' :: _ => .token .paramRef (after + 1)
      | _ => .invalid after
    else if isSpace c || c == '%' then .token .percent pos
    else .invalid pos

/-- A name after `#`, ended by a blank, `)`, `>`, `%`, `|` or the end. -/
def scanPoundName (cs : List Char) (pos : Nat) : Scan :=
  match cs with
  | [] => .incomplete
  | c :: r =>
    if !isNameStart c then .invalid pos
    else
      let rest := r.takeWhile isNameChar
      let after := pos + 1 + rest.length
      let tok : Scan := .token (.poundName (String.ofList (c :: rest))) after
      match r.drop rest.length with
      | [] => tok
      | d :: _ => if isSpace d || d == ')' || d == '>' || d == '%' || d == '|' then tok else .invalid after

/-- One token outside elements, at offset `pos`. -/
def prologToken (cs : List Char) (pos : Nat) : Scan :=
  match cs with
  | [] => .finished
  | c :: r =>
    if c == '"' || c == '\'' then
      match literalEnd c r (pos + 1) with
      | .ends next => .token (.literal (r.take (next - pos - 2)) (pos + 1)) next
      | .breaks p => .invalid p
      | .incomplete => .incomplete
    else if c == '<' then
      match r with
      | [] => .incomplete
      | '!' :: r2 => scanDeclOpen r2 (pos + 2)
      | '?' :: r2 =>
        match scanInstruction r2 (pos + 2) with
        | .ends true targetEnd next =>
          .token (.declaration ((cs.drop (targetEnd - pos)).take (next - 2 - targetEnd)) targetEnd) next
        | .ends false _ next => .token .instruction next
        | .breaks p => .invalid p
        | .incomplete => .incomplete
      | d :: _ => if isAsciiNameStart d || d.toNat ≥ 0x80 then .token .instanceStart pos else .invalid (pos + 1)
    else if isSpace c then .token .blank (pos + 1 + (r.takeWhile isSpace).length)
    else if c == '%' then scanPercent r (pos + 1)
    else if c == ',' then .token .comma (pos + 1)
    else if c == '[' then .token .openBracket (pos + 1)
    else if c == ']' then
      match r with
      | ']' :: '>' :: _ => .token .condClose (pos + 3)
      | [']'] => .incomplete
      | _ => .token .closeBracket (pos + 1)
    else if c == '(' then .token .openParen (pos + 1)
    else if c == ')' then
      match r with
      | [] => .token (.closeParen none) (pos + 1)
      | d :: _ =>
        if d == '*' || d == '?' || d == '+' then .token (.closeParen (some d)) (pos + 2)
        else if isSpace d || d == '>' || d == ',' || d == '|' || d == ')' then .token (.closeParen none) (pos + 1)
        else .invalid (pos + 1)
    else if c == '|' then .token .choice (pos + 1)
    else if c == '>' then .token .declClose (pos + 1)
    else if c == '#' then scanPoundName r (pos + 1)
    else
      let kind? : Option NameKind :=
        if isNameStart c then some .plain else if isNameChar c || c == ':' then some .token else none
      match kind? with
      | none => .invalid pos
      | some k =>
        let text (next : Nat) : String := String.ofList (cs.take (next - pos))
        match nameRun r (pos + 1) k with
        | .ends .plain next => .token (.name (text next)) next
        | .ends .prefixed next => .token (.prefixedName (text next)) next
        | .ends .token next | .ends .colon next => .token .nmtoken next
        | .repeated next => .token .repeatedName next
        | .breaks p => .invalid p
        | .incomplete => .incomplete

end VCard.Xml
