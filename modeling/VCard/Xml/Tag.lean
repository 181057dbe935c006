import VCard.Xml.Dtd
import VCard.Xml.Node
/-! Tags: how they are scanned, and how a start tag becomes an element's name
and attributes.

A start tag is `<`, a qualified name, attributes `name = "value"` (each after a
blank) and `>` or `/>`. A qualified name is name characters with at most one
colon, which a character that may start a name follows. Scanning checks the
tag's form only: a reference in a value must be well formed, but what it
refers to is looked at later, and a value may hold no `<`. An end tag is `</`,
a name (colons are not checked, since it must match its start tag exactly),
optional blanks and `>`.

A start tag is then resolved (`resolveTag`), attribute by attribute in order:
a name may not repeat, the value is normalized by its declared type, and an
`xmlns` or `xmlns:p` attribute binds a namespace instead of being kept. Then
the defaults declared for the element type are added for attributes not given,
prefixed attribute names are expanded (two may not expand alike), and last the
element's own name. -/
namespace VCard.Xml

/-- An attribute as written: its name, where the name starts, and the text
between its quotes and where that starts. -/
structure RawAttribute where
  name : String
  namePos : Nat
  value : List Char
  valuePos : Nat

/-- A start tag as written. -/
structure StartTag where
  name : String
  attrs : List RawAttribute
  empty : Bool

/-- How scanning a tag ends: the tag and the offset past it, a character that
cannot continue it, or the end of the input. -/
inductive TagScan (α : Type) where
  | ends (tag : α) (next : Nat)
  | breaks (offset : Nat)
  | incomplete

/-- How a qualified name ends: its text, what follows and where; or where it
breaks, or the end of the input right after a colon. -/
inductive NameEnd where
  | stops (name : List Char) (rest : List Char) (pos : Nat)
  | breaks (offset : Nat)
  | incomplete

/-- Reads the rest of a qualified name (`acc` reversed so far). -/
def qualifiedName : List Char → Nat → Bool → List Char → NameEnd
  | [], pos, _, acc => .stops acc.reverse [] pos
  | c :: r, pos, hadColon, acc =>
    if isNameChar c then qualifiedName r (pos + 1) hadColon (c :: acc)
    else if c == ':' then
      if hadColon then .breaks pos
      else match r with
        | [] => .incomplete
        | d :: _ => if isNameStart d then qualifiedName r (pos + 1) true (c :: acc) else .breaks (pos + 1)
    else .stops acc.reverse (c :: r) pos

/-- What follows the name of a tag and a blank, or the closing quote of a value:
the end of the tag, or the first character of the next attribute's name. -/
inductive TagNext where
  | done (result : TagScan StartTag)
  | attribute (rest : List Char) (pos : Nat) (acc : List RawAttribute)

/-- Reads on after the name of a tag or a value; `blank` tells whether a blank
came first, which an attribute needs. -/
def tagRest : List Char → Nat → Bool → List RawAttribute → TagNext
  | [], _, _, _ => .done .incomplete
  | c :: r, pos, blank, acc =>
    if isSpace c then tagRest r (pos + 1) true acc
    else if c == '>' then .done (.ends ⟨"", acc.reverse, false⟩ (pos + 1))
    else if c == '/' then
      match r with
      | [] => .done .incomplete
      | d :: _ => .done (if d == '>' then .ends ⟨"", acc.reverse, true⟩ (pos + 2) else .breaks (pos + 1))
    else if blank && isNameStart c then .attribute (c :: r) pos acc
    else .done (.breaks pos)

/-- The text of a value up to its closing quote (`acc` reversed so far), what
follows the quote and where: references must be well formed, and `<` and
characters no document holds are refused (at an offset), as is the end of the
input (none). -/
def valueText (quote : Char) : Nat → List Char → Nat → List Char → Except (Option Nat) (List Char × List Char × Nat)
  | 0, _, _, _ => .error none
  | _ + 1, [], _, _ => .error none
  | fuel + 1, c :: r, pos, acc =>
    if c == quote then .ok (acc.reverse, r, pos + 1)
    else if c == '<' || !isXmlChar c then .error (some pos)
    else if c == '&' then
      match scanReference r (pos + 1) with
      | .breaks p => .error (some p)
      | .incomplete => .error none
      | .ends _ next =>
        let used := next - pos
        valueText quote fuel (r.drop (used - 1)) next (((c :: r).take used).reverse ++ acc)
    else valueText quote fuel r (pos + 1) (c :: acc)

/-- Scans the attributes of a start tag, from the first character of a name. -/
def scanAttributes : Nat → List Char → Nat → List RawAttribute → TagScan StartTag
  | 0, _, pos, _ => .breaks pos
  | fuel + 1, cs, pos, acc =>
    match qualifiedName cs pos false [] with
    | .incomplete => .incomplete
    | .breaks p => .breaks p
    | .stops name rest p =>
      let blanks := (rest.takeWhile isSpace).length
      match rest.drop blanks with
      | [] => .incomplete
      | '=' :: afterEq =>
        let gap := (afterEq.takeWhile isSpace).length
        let q := p + blanks + 1 + gap
        match afterEq.drop gap with
        | [] => .incomplete
        | quote :: body =>
          if quote != '"' && quote != '\'' then .breaks q
          else match valueText quote (body.length + 1) body (q + 1) [] with
            | .error none => .incomplete
            | .error (some e) => .breaks e
            | .ok (value, after, next) =>
              let acc := ⟨String.ofList name, pos, value, q + 1⟩ :: acc
              match after with
              | [] => .incomplete
              | c :: _ =>
                if !(isSpace c || c == '/' || c == '>') then .breaks next
                else match tagRest after next false acc with
                  | .attribute more p2 acc => scanAttributes fuel more p2 acc
                  | .done result => result
      | _ => .breaks (p + blanks)

/-- Scans a start tag from the first character of its name. -/
def scanStartTag (cs : List Char) (pos : Nat) : TagScan StartTag :=
  match cs with
  | [] => .incomplete
  | c :: _ =>
    if !isNameStart c then .breaks pos
    else match qualifiedName cs pos false [] with
      | .incomplete => .incomplete
      | .breaks p => .breaks p
      | .stops name rest p =>
        let named (t : TagScan StartTag) : TagScan StartTag := match t with
          | .ends tag next => .ends { tag with name := String.ofList name } next
          | other => other
        match rest with
        | [] => .incomplete
        | d :: _ =>
          if !(isSpace d || d == '>' || d == '/') then .breaks p
          else match tagRest rest p false [] with
            | .attribute more p2 acc => named (scanAttributes (more.length + 1) more p2 acc)
            | .done result => named result

/-- Scans an end tag after its `</`: the name and the offset past `>`. -/
def scanEndTag (cs : List Char) (pos : Nat) : TagScan String :=
  match cs with
  | [] => .incomplete
  | c :: _ =>
    if !isNameStart c then .breaks pos
    else
      let name := cs.takeWhile fun d => isNameChar d || d == ':'
      let rest := cs.drop name.length
      let blanks := (rest.takeWhile isSpace).length
      let p := pos + name.length + blanks
      match rest.drop blanks with
      | [] => .incomplete
      | '>' :: _ => .ends (String.ofList name) (p + 1)
      | _ => .breaks p

/-! ### Namespaces and attributes -/

/-- The namespace bindings in scope: prefix (empty for the default namespace)
and namespace, the innermost first. -/
abbrev Scope := List (String × String)

/-- The namespace of declarations themselves. -/
def xmlnsNs : String := "http://www.w3.org/2000/xmlns/"

/-- What is wrong with binding a prefix (empty for the default namespace) to a
namespace, if anything: only the default namespace may be undeclared, the
prefix `xmlns` is never declared, a namespace may not hold `}`, the prefix
`xml` belongs to the XML namespace alone, and no other prefix may be bound to
it or to the namespace of declarations. -/
def bindingFault (pre uri : String) : Option String :=
  if uri.isEmpty && !pre.isEmpty then some "must not undeclare prefix"
  else if pre == "xmlns" then some "reserved prefix (xmlns) must not be declared or undeclared"
  else if uri.toList.contains '}' then some "syntax error"
  else if pre == "xml" && uri != xmlNs then
    some "reserved prefix (xml) must not be undeclared or bound to another namespace name"
  else if pre != "xml" && (uri == xmlNs || uri == xmlnsNs) then
    some "prefix must not be bound to one of the reserved namespace names"
  else none

/-- Splits a qualified name at its first colon. -/
def splitQName (s : String) : Option String × String :=
  match s.toList.findIdx? (· == ':') with
  | some i => (some (String.ofList (s.toList.take i)), String.ofList (s.toList.drop (i + 1)))
  | none => (none, s)

/-- The prefix an attribute name declares: empty for `xmlns`, `p` for `xmlns:p`. -/
def declaredPrefix (name : String) : Option String :=
  if name == "xmlns" then some ""
  else match splitQName name with
    | (some "xmlns", p) => some p
    | _ => none

/-- The namespace of a prefix in scope; `xml` is always bound. -/
def Scope.lookup (scope : Scope) (p : String) : Option String :=
  if p == "xml" then some xmlNs else (scope.find? (·.1 == p)).map (·.2)

/-- An attribute on its way: its name as written and its value. -/
abbrev Valued := String × String

/-- Resolves a start tag at `tagPos` against the bindings in scope: the
expanded name, the attributes, the bindings for the content, and the budget.
`internal` tells whether the tag is replacement text, `account` where the bytes
of its values count. -/
def resolveTag (dtd : Dtd) (scope : Scope) (internal : Bool) (account : Account) (tag : StartTag)
    (tagPos : Nat) (budget : Budget) : Except ParseFailure (Name × List (Name × String) × Scope × Budget) := do
  let decls := dtd.attributes.filter (·.element == tag.name)
  -- Specified attributes, in order.
  let step (acc : List String × Scope × List Valued × Budget) (a : RawAttribute) :
      Except ParseFailure (List String × Scope × List Valued × Budget) := do
    let (seen, bound, kept, budget) := acc
    if seen.contains a.name then fail "duplicate attribute" (if internal then tagPos else a.namePos)
    let cdata := ((decls.find? (·.name == a.name)).map (·.cdata)).getD true
    let reader : ValueReader := ⟨dtd.entities, dtd.checksEntities, cdata, account⟩
    let (value, budget) ← match normalizeValue reader (if internal then none else some a.valuePos) a.value budget with
      | .ok r => pure r
      | .error (m, p) => fail m (p.getD tagPos)
    match declaredPrefix a.name with
    | some pre =>
      if let some why := bindingFault pre value then fail why tagPos
      pure (seen ++ [a.name], (pre, value) :: bound, kept, budget)
    | none => pure (seen ++ [a.name], bound, kept ++ [(a.name, value)], budget)
  let (seen, bound, kept, budget) ← tag.attrs.foldlM step ([], [], [], budget)
  -- Defaults for attributes not given.
  let addDefault (acc : List String × Scope × List Valued) (d : AttributeDecl) :
      Except ParseFailure (List String × Scope × List Valued) := do
    let (seen, bound, kept) := acc
    match d.value with
    | none => pure acc
    | some value =>
      if seen.contains d.name then pure acc
      else match declaredPrefix d.name with
        | some pre =>
          if let some why := bindingFault pre value then fail why tagPos
          pure (seen ++ [d.name], (pre, value) :: bound, kept)
        | none => pure (seen ++ [d.name], bound, kept ++ [(d.name, value)])
  let (_, bound, kept) ← decls.foldlM addDefault (seen, bound, kept)
  let scope := bound ++ scope
  -- Prefixed names expand; two may not expand alike.
  let expand (acc : List (Name × String)) (a : Valued) : Except ParseFailure (List (Name × String)) := do
    match splitQName a.1 with
    | (some p, l) =>
      match scope.lookup p with
      | some uri =>
        let expanded : Name := ⟨some uri, l⟩
        if acc.any (·.1 == expanded) then fail "duplicate attribute" tagPos
        pure (acc ++ [(expanded, a.2)])
      | none => fail "unbound prefix" tagPos
    | (none, l) => pure (acc ++ [(⟨none, l⟩, a.2)])
  let attrs ← kept.foldlM expand []
  let name ← match splitQName tag.name with
    | (some p, l) =>
      match scope.lookup p with
      | some uri => pure (⟨some uri, l⟩ : Name)
      | none => fail "unbound prefix" tagPos
    | (none, l) =>
      match scope.lookup "" with
      | some uri => pure ⟨if uri.isEmpty then none else some uri, l⟩
      | none => pure ⟨none, l⟩
  pure (name, attrs, scope, budget)

end VCard.Xml
