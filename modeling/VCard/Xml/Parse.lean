import VCard.Xml.Tag
import VCard.Charset.Unicode
/-! Reading XML documents into element trees (XML 1.0 with namespaces).

A document is read in three parts: the prolog up to the start tag of the root
element (`readProlog`), the root element and its content (`readContent`), and
what may follow it: blanks, comments and processing instructions
(`readEpilog`). The reader stops at the first fault and reports its kind and
place (`ParseFailure.render`: `kind: line L, column C`, the column counted in
characters from 0, a byte order mark included, and a CR LF, CR or LF ending a
line).

In content, character data keeps its characters, with line ends normalized to
line feeds; references to characters and to the five predefined entities are
replaced, and CDATA sections unwrapped. A reference to an entity declared with
replacement text is read as content in its place: it may hold markup, but its
elements must close within it. A fault in replacement text is reported where
the outermost reference to it stands. A reference to an entity that is not
there to read (declared in another resource, or not declared while
declarations may lie elsewhere) is the fault `undefined entity &name;`.

What is kept: element names expanded against the namespace bindings in scope,
attributes in order (defaults added) with normalized values, and the text of
each element before its first child and after each child (its *tail*).
Comments and processing instructions are skipped; text around them joins up. -/
namespace VCard.Xml

/-- An element being read: its name as written, expanded name, attributes, text
before its first child, children so far (the last first), and the bindings
for its content. -/
structure OpenElement where
  rawName : String
  name : Name
  attrs : List (Name × String)
  text : String := ""
  children : List Element := []
  scope : Scope

/-- The tree being built: the open elements (the innermost first), the
character data since the last tag (the last piece first), and the budget. -/
structure Builder where
  stack : List OpenElement := []
  pending : List String := []
  budget : Budget := {}

/-- Places the character data read since the last tag: it is the text of the
innermost element before its first child, else the tail of its last child. -/
def Builder.flush (b : Builder) : Builder :=
  if b.pending.isEmpty then b
  else
    let text := String.join b.pending.reverse
    match b.stack with
    | [] => { b with pending := [] }
    | e :: rest =>
      let e := match e.children with
        | [] => { e with text := e.text ++ text }
        | last :: others => { e with children := { last with tail := last.tail ++ text } :: others }
      { b with stack := e :: rest, pending := [] }

/-- Closes the innermost element: into its parent, or (none left open) as the root. -/
def Builder.close (b : Builder) : Builder × Option Element :=
  let b := b.flush
  match b.stack with
  | [] => (b, none)
  | e :: rest =>
    let done : Element := { name := e.name, attrs := e.attrs, text := e.text, children := e.children.reverse }
    match rest with
    | [] => ({ b with stack := [] }, some done)
    | parent :: others => ({ b with stack := { parent with children := done :: parent.children } :: others }, none)

/-- Adds character data. -/
def Builder.addData (b : Builder) (s : String) : Builder := { b with pending := s :: b.pending }

/-- The fault of a reference to an entity that is not there to read: the
reference as written, cut after 100 bytes. -/
def skippedEntityFault (name : String) : String :=
  let bytes := ("&" ++ name ++ ";").toList.flatMap Encoding.encodeUtf8Char
  "undefined entity " ++ Charset.Piece.lenient (Charset.utf8Pieces (bytes.take 100))

/-- How reading content ends: the root element closed, with the text after it
and its offset; or the text ran out. -/
inductive ContentEnd where
  | closed (root : Element) (rest : List Char) (pos : Nat) (budget : Budget)
  | finished (b : Builder)

/-- What reading a piece of content needs: the declarations, whether the text is
replacement text (`internal`: a carriage return is then a character like any
other), where its bytes count, how many elements were open when it began, and
the entities being expanded. -/
structure Reading where
  dtd : Dtd
  internal : Bool
  account : Account
  level : Nat
  opened : List String

/-- A run of character data (`acc` reversed so far): up to markup, a reference,
a line end or a character no document holds. `]]>` may not appear in it: the
offset (within the run) of its `>`. -/
def dataRun (internal : Bool) : List Char → Nat → List Char → Except Nat (List Char × List Char)
  | [], _, acc => .ok (acc.reverse, [])
  | c :: r, n, acc =>
    if c == '<' || c == '&' || c == '\n' || (c == '\r' && !internal) || !isXmlChar c then .ok (acc.reverse, c :: r)
    else if c == ']' then
      match r with
      | ']' :: '>' :: _ => .error (n + 2)
      | _ => dataRun internal r (n + 1) (c :: acc)
    else dataRun internal r (n + 1) (c :: acc)

/-- A run of a CDATA section: up to `]`, a line end or a character no document
holds. -/
def cdataRun (internal : Bool) (cs : List Char) : List Char :=
  cs.takeWhile fun c => !(c == ']' || c == '\n' || (c == '\r' && !internal) || !isXmlChar c)

/-- Where `CDATA[` is misspelt after `<![`, if it is. -/
def cdataMismatch (cs : List Char) : Option Nat :=
  ((cs.take 6).zip "CDATA[".toList).findIdx? fun (a, b) => a != b

/-- Reads the rest of a CDATA section, up to and past its `]]>`: the text after
it and its offset. -/
def readCdata (r : Reading) : Nat → List Char → Nat → Builder → Except ParseFailure (List Char × Nat × Builder)
  | 0, _, pos, _ => fail "unclosed CDATA section" pos
  | fuel + 1, cs, pos, b =>
    let step (n : Nat) (data : String) : Except ParseFailure (List Char × Nat × Builder) :=
      match b.budget.charge r.account (bytesOf cs n) with
      | none => fail amplificationFault pos
      | some budget => readCdata r fuel (cs.drop n) (pos + n) ({ b with budget }.addData data)
    match cs with
    | [] => fail "unclosed CDATA section" pos
    | ']' :: rest =>
      match rest with
      | [] => fail "unclosed CDATA section" pos
      | ']' :: more =>
        match more with
        | [] => fail "unclosed CDATA section" pos
        | '>' :: after =>
          match b.budget.charge r.account (bytesOf cs 3) with
          | none => fail amplificationFault pos
          | some budget => .ok (after, pos + 3, { b with budget })
        | _ => step 1 "]"
      | _ =>
        let run := ']' :: cdataRun r.internal rest
        step run.length (String.ofList run)
    | '\n' :: _ => step 1 "\n"
    | c :: rest =>
      if c == '\r' && !r.internal then
        match rest with
        | [] => fail "unclosed CDATA section" pos
        | '\n' :: _ => step 2 "\n"
        | _ => step 1 "\n"
      else if !isXmlChar c then invalidToken pos
      else
        let run := c :: cdataRun r.internal rest
        step run.length (String.ofList run)

/-- Reads content from offset `pos`: the document's from the root's start tag
on, or replacement text. -/
def readContent (r : Reading) : Nat → List Char → Nat → Builder → Except ParseFailure ContentEnd
  | 0, _, pos, _ => fail "no element found" pos
  | fuel + 1, cs, pos, b =>
    -- Counts a token of `n` characters and goes on with `k`.
    let charged (n : Nat) (k : Builder → Except ParseFailure ContentEnd) : Except ParseFailure ContentEnd :=
      match b.budget.charge r.account (bytesOf cs n) with
      | none => fail amplificationFault pos
      | some budget => k { b with budget }
    let data (n : Nat) (s : String) : Except ParseFailure ContentEnd :=
      charged n fun b => readContent r fuel (cs.drop n) (pos + n) (b.addData s)
    match cs with
    | [] =>
      if r.level == 0 then fail "no element found" pos
      else if b.stack.length != r.level then fail "asynchronous entity" pos
      else .ok (.finished b)
    | '<' :: rest =>
      match rest with
      | [] => unclosedToken pos
      | '!' :: r2 =>
        match r2 with
        | [] => unclosedToken pos
        | '-' :: r3 =>
          match scanComment r3 (pos + 3) with
          | .ends next => charged (next - pos) fun b => readContent r fuel (cs.drop (next - pos)) next b
          | .breaks p => invalidToken p
          | .incomplete => unclosedToken pos
        | '[' :: r3 =>
          if r3.length < 6 then unclosedToken pos
          else match cdataMismatch r3 with
            | some i => invalidToken (pos + 3 + i)
            | none =>
              charged 9 fun b =>
                match readCdata r fuel (r3.drop 6) (pos + 9) b with
                | .error f => .error f
                | .ok (after, next, b) => readContent r fuel after next b
        | _ => invalidToken (pos + 2)
      | '?' :: r2 =>
        match scanInstruction r2 (pos + 2) with
        | .ends true _ _ => fail "XML or text declaration not at start of entity" pos
        | .ends false _ next => charged (next - pos) fun b => readContent r fuel (cs.drop (next - pos)) next b
        | .breaks p => invalidToken p
        | .incomplete => unclosedToken pos
      | '/' :: r2 =>
        match scanEndTag r2 (pos + 2) with
        | .breaks p => invalidToken p
        | .incomplete => unclosedToken pos
        | .ends name next =>
          charged (next - pos) fun b =>
            if b.stack.length == r.level then fail "asynchronous entity" pos
            else match b.stack with
              | [] => fail "mismatched tag" (pos + 2)
              | top :: _ =>
                if top.rawName != name then fail "mismatched tag" (pos + 2)
                else match b.close with
                  | (b, some root) => .ok (.closed root (cs.drop (next - pos)) next b.budget)
                  | (b, none) => readContent r fuel (cs.drop (next - pos)) next b
      | c :: _ =>
        if !isNameStart c then invalidToken (pos + 1)
        else match scanStartTag rest (pos + 1) with
          | .breaks p => invalidToken p
          | .incomplete => unclosedToken pos
          | .ends tag next =>
            charged (next - pos) fun b =>
              let scope := match b.stack with
                | e :: _ => e.scope
                | [] => []
              let account := if tag.empty then Account.free else r.account
              match resolveTag r.dtd scope r.internal account tag pos b.budget with
              | .error f => .error f
              | .ok (name, attrs, scope, budget) =>
                let b := { b.flush with budget }
                let b := { b with stack := ⟨tag.name, name, attrs, "", [], scope⟩ :: b.stack }
                if !tag.empty then readContent r fuel (cs.drop (next - pos)) next b
                else match b.close with
                  | (b, some root) => .ok (.closed root (cs.drop (next - pos)) next b.budget)
                  | (b, none) => readContent r fuel (cs.drop (next - pos)) next b
    | '&' :: rest =>
      match scanReference rest (pos + 1) with
      | .breaks p => invalidToken p
      | .incomplete => unclosedToken pos
      | .ends (.char n) next =>
        match referencedChar n with
        | none => fail "reference to invalid character number" pos
        | some ch => data (next - pos) ch.toString
      | .ends (.entity name) next =>
        charged (next - pos) fun b =>
          let after := cs.drop (next - pos)
          match predefinedEntity name with
          | some ch =>
            readContent r fuel after next ({ b with budget.indirect := b.budget.indirect + 1 }.addData ch.toString)
          | none =>
            match r.dtd.entity? name with
            | none =>
              if r.dtd.checksEntities then fail "undefined entity" pos else fail (skippedEntityFault name) pos
            | some e =>
              if r.opened.contains name then fail "recursive entity reference" pos
              else match e with
                | .unparsed => fail "reference to binary entity" pos
                | .external => fail (skippedEntityFault name) pos
                | .internal text =>
                  let inner : Reading :=
                    { r with internal := true, account := .expansion, level := b.stack.length, opened := name :: r.opened }
                  match readContent inner fuel text 0 b with
                  | .error f => .error { f with offset := pos }
                  | .ok (.finished b) => readContent r fuel after next b
                  | .ok (.closed ..) => fail "asynchronous entity" pos
    | '\n' :: _ => data 1 "\n"
    | c :: rest =>
      if c == '\r' && !r.internal then
        match rest with
        | '\n' :: _ => data 2 "\n"
        | [] => if r.level == 0 then fail "no element found" pos else data 1 "\n"
        | _ => data 1 "\n"
      else if !isXmlChar c then invalidToken pos
      else match dataRun r.internal cs 0 [] with
        | .error n => invalidToken (pos + n)
        | .ok (run, _) => data run.length (String.ofList run)

/-- Reads what may follow the root element: blanks, comments and processing
instructions. -/
def readEpilog : Nat → List Char → Nat → Budget → Except ParseFailure Unit
  | 0, _, _, _ => .ok ()
  | fuel + 1, cs, pos, budget =>
    match prologToken cs pos with
    | .finished => .ok ()
    | .incomplete => unclosedToken pos
    | .invalid p => invalidToken p
    | .token t next =>
      match t with
      | .blank | .instruction | .comment =>
        match budget.charge .direct (bytesOf cs (next - pos)) with
        | none => fail amplificationFault pos
        | some budget => readEpilog fuel (cs.drop (next - pos)) next budget
      | _ => fail "junk after document element" pos

/-- Steps enough for any document: each piece of text is read in fewer steps
than the document has characters, and entities nest fewer deep than that. -/
def contentFuel (cs : List Char) : Nat := (cs.length + 1) * (cs.length + 1) + activationBytes

/-- Reads a document into its root element. A byte order mark at its start is
skipped (but counts as a column). -/
def parseDocument (src : String) : Except ParseFailure Element := do
  let all := src.toList
  let (cs, start) := match all with
    | c :: r => if c.toNat == 0xFEFF then (r, 1) else (all, 0)
    | [] => ([], 0)
  let (dtd, rest, pos) ← readProlog (cs.length + 1) cs start {}
  let reading : Reading := ⟨dtd, false, .direct, 0, []⟩
  match ← readContent reading (contentFuel cs) rest pos { budget := { direct := bytesOf all pos } } with
  | .closed root after next budget =>
    readEpilog (after.length + 1) after next budget
    pure root
  | .finished _ => fail "no element found" pos

/-- Reads a document, with a failure as its message. -/
def parse (src : String) : Except String Element :=
  match parseDocument src with
  | .ok e => .ok e
  | .error f => .error (f.render src)

end VCard.Xml
