import VCard.Html.Entity
import VCard.Text.Case
import VCard.Xml.Node
/-! A forgiving reader of HTML into an element tree.

The text is cut into tags, comments, declarations and character data the way
web browsers' simple tokenizers do: a start tag is `<` and an ASCII letter, a
tag name runs to a blank, `/`, `>` or NUL, and attributes follow with optional
values, quoted or bare. Tag and attribute names are lowered; attribute values
and character data have their character references decoded. Comments,
processing instructions, declarations and bogus comments (`</` or `<!` with
nothing sensible after it) are dropped. Inside `script` and `style` everything
up to the matching end tag is data.

The tree is built with a stack of open elements under a `document` root: a
start tag opens an element (except the void ones, which never hold content),
`<x/>` adds a closed element, an end tag closes everything down to the nearest
open element of its name (and is ignored when none is open), and data goes to
the tail of the last child, or to the text of the open element when it has no
child yet. At the end of the input every open element is closed.

Reading happens in two passes, as for a stream that is fed and then closed: the
first pass stops before a construct that the end of the input cuts short, and
the second pass, knowing the input is over, turns such a construct into data. -/
namespace VCard.Html

open Xml (Element)

/-- Elements that never hold content. -/
def voidTags : List String :=
  ["area", "base", "br", "col", "embed", "hr", "img", "input", "link", "meta", "param", "source",
   "track", "wbr"]

/-- Elements whose content is taken as data up to their end tag. -/
def rawTextTags : List String := ["script", "style"]

/-! ### The tree under construction -/

/-- An element that is still open: its children are kept last first. -/
structure OpenElement where
  tag : String
  attrs : List (Xml.Name × String) := []
  text : String := ""
  children : List Element := []

namespace OpenElement

def close (o : OpenElement) : Element :=
  { name := ⟨none, o.tag⟩, attrs := o.attrs, text := o.text, children := o.children.reverse }

def addChild (o : OpenElement) (e : Element) : OpenElement := { o with children := e :: o.children }

/-- Adds data after the last child, or to the text when there is none. -/
def addData (o : OpenElement) (data : String) : OpenElement :=
  match o.children with
  | last :: rest => { o with children := { last with tail := last.tail ++ data } :: rest }
  | [] => { o with text := o.text ++ data }

end OpenElement

/-- The stack of open elements, innermost first, above the document root. -/
structure TreeBuilder where
  openElements : List OpenElement := []
  root : OpenElement := { tag := "document" }

namespace TreeBuilder

def modifyTop (b : TreeBuilder) (f : OpenElement → OpenElement) : TreeBuilder :=
  match b.openElements with
  | top :: rest => { b with openElements := f top :: rest }
  | [] => { b with root := f b.root }

def data (b : TreeBuilder) (text : String) : TreeBuilder :=
  if text.isEmpty then b else b.modifyTop (·.addData text)

/-- Attributes as a map: a repeated name keeps its first place and its last value. -/
def attributeMap (attrs : List (String × String)) : List (Xml.Name × String) :=
  attrs.foldl (fun acc (n, v) =>
    if acc.any (·.1.localName == n) then acc.map fun e => if e.1.localName == n then (e.1, v) else e
    else acc ++ [(⟨none, n⟩, v)]) []

def startTag (b : TreeBuilder) (tag : String) (attrs : List (String × String)) : TreeBuilder :=
  let o : OpenElement := { tag, attrs := attributeMap attrs }
  if voidTags.contains tag then b.modifyTop (·.addChild o.close)
  else { b with openElements := o :: b.openElements }

def emptyTag (b : TreeBuilder) (tag : String) (attrs : List (String × String)) : TreeBuilder :=
  b.modifyTop (·.addChild ({ tag, attrs := attributeMap attrs } : OpenElement).close)

/-- Closes the innermost open element, adding it to the one around it. -/
def closeTop (b : TreeBuilder) : TreeBuilder :=
  match b.openElements with
  | top :: rest => ({ b with openElements := rest } : TreeBuilder).modifyTop (·.addChild top.close)
  | [] => b

/-- Closes open elements down to and including the nearest one of a tag. -/
def endTag (b : TreeBuilder) (tag : String) : TreeBuilder :=
  match b.openElements.findIdx? (·.tag == tag) with
  | some i => (List.range (i + 1)).foldl (fun b _ => b.closeTop) b
  | none => b

/-- The document root, every open element closed. -/
def finish (b : TreeBuilder) : Element :=
  (b.openElements.foldl (fun b _ => b.closeTop) b).root.close

end TreeBuilder

/-! ### Scanning -/

def isAsciiLetter (c : Char) : Bool := ('a' ≤ c && c ≤ 'z') || ('A' ≤ c && c ≤ 'Z')

/-- Characters that end a tag name. -/
def endsTagName (c : Char) : Bool :=
  c == '\t' || c == '\n' || c == '\r' || c.toNat == 12 || c == ' ' || c == '/' || c == '>' || c.toNat == 0

/-- Whether a text starts with another. -/
def startsWith (cs pre : List Char) : Bool := cs.take pre.length == pre

/-- The place of the first occurrence of a character at or after a place. -/
def findFrom (c : Char) (start : Nat) (cs : List Char) : Option Nat :=
  ((cs.drop start).findIdx? (· == c)).map (start + ·)

/-- The length of the blanks and slashes not followed by `>` at the front. -/
def gapLength : List Char → Nat
  | c :: rest =>
    if Text.isBlank c || (c == '/' && rest.head? != some '>') then gapLength rest + 1 else 0
  | [] => 0

/-- The value part of an attribute, blanks, `=` signs, blanks and a value, as
a backtracking matcher finds it: its length and the value. A quote that is
never closed makes the value empty when blanks stand before it, and makes it
start at the last `=` when several stand there; else there is no value part. -/
def valuePart? (cs : List Char) : Option (Nat × List Char) :=
  let s1 := (cs.takeWhile Text.isBlank).length
  let r1 := cs.drop s1
  let e := (r1.takeWhile (· == '=')).length
  let r2 := r1.drop e
  let s2 := (r2.takeWhile Text.isBlank).length
  let r3 := r2.drop s2
  let bare (xs : List Char) : List Char := xs.takeWhile fun c => c != '>' && !Text.isBlank c
  if e == 0 then none
  else
    match r3 with
    | q :: body =>
      if q == '\'' || q == '"' then
        match body.findIdx? (· == q) with
        | some j => some (s1 + e + s2 + j + 2, q :: body.take j ++ [q])
        | none =>
          if s2 ≥ 1 then some (s1 + e + s2 - 1, [])
          else if e ≥ 2 then
            let v := bare ('=' :: r3)
            some (s1 + e - 1 + v.length, v)
          else none
      else
        let v := bare r3
        some (s1 + e + s2 + v.length, v)
    | [] => some (s1 + e + s2, [])

/-- An attribute in a start tag: it must follow a quote, a blank or a slash.
Gives the name, the value part's value when there is one, and the length taken,
blanks and slashes after it included. -/
def attribute? (prev : Char) (cs : List Char) : Option (List Char × Option (List Char) × Nat) :=
  if !(prev == '\'' || prev == '"' || prev == '/' || Text.isBlank prev) then none
  else
    match cs with
    | c :: rest =>
      if Text.isBlank c || c == '/' || c == '>' then none
      else
        let name := c :: rest.takeWhile fun d => !(Text.isBlank d || d == '/' || d == '=' || d == '>')
        let after := cs.drop name.length
        let (valueLen, value) := match valuePart? after with
          | some (n, v) => (n, some v)
          | none => (0, none)
        some (name, value, name.length + valueLen + gapLength (after.drop valueLen))
    | [] => none

/-- The attributes from a place on, read in a row: each with the length up to
its end. Each attribute takes at least one character, so the text's length
bounds the count. -/
def attributesFrom (fuel : Nat) (pos : Nat) (cs : List Char) :
    List (List Char × Option (List Char) × Nat) :=
  match fuel with
  | 0 => []
  | fuel + 1 =>
    match pos with
    | 0 => []
    | p + 1 =>
      match cs[p]? with
      | none => []
      | some prev =>
        match attribute? prev (cs.drop pos) with
        | some (name, value, n) => (name, value, pos + n) :: attributesFrom fuel (pos + n) cs
        | none => []

/-- The length of a tag name after `<` or `</`: a letter and the characters up
to the end of the name. -/
def tagNameLength (cs : List Char) : Nat := 1 + ((cs.drop 1).takeWhile (!endsTagName ·)).length

/-- Where a start tag ends, as a scanner that knows nothing of its attributes'
meaning finds it: after the name, blanks and slashes, attributes and blanks. -/
def startTagScan (cs : List Char) : Nat :=
  let afterName := 1 + tagNameLength (cs.drop 1)
  let gap := ((cs.drop afterName).takeWhile fun c => Text.isBlank c || c == '/').length
  let pos := afterName + gap
  let pos := match (attributesFrom cs.length pos cs).getLast? with
    | some (_, _, e) => e
    | none => pos
  pos + ((cs.drop pos).takeWhile Text.isBlank).length

/-- The end of a whole start tag, or none when the input may still be cut
short inside it. -/
def startTagEnd? (cs : List Char) : Option Nat :=
  let j := startTagScan cs
  match cs[j]? with
  | some '>' => some (j + 1)
  | some '/' => if cs[j + 1]? == some '>' then some (j + 2) else none
  | none => none
  | some c => if isAsciiLetter c || c == '=' || c == '/' then none else some j

/-- An attribute's value as stored: quotes dropped, references decoded, and
the empty text for an attribute without a value. -/
def attributeValue : Option (List Char) → String
  | none => ""
  | some v =>
    let q := v.head?
    let v := if (q == some '\'' || q == some '"') && v.getLast? == q then (v.drop 1).dropLast else v
    unescape (String.ofList v)

/-- The attributes of a row that start before a place; the first starts at
`start`, each next one where the one before ends. -/
def takeStartingBefore (limit start : Nat) :
    List (List Char × Option (List Char) × Nat) → List (List Char × Option (List Char) × Nat)
  | [] => []
  | a :: rest => if start < limit then a :: takeStartingBefore limit a.2.2 rest else []

/-! ### Tokenizing -/

/-- The reader's state: the tree so far and the element whose content is raw. -/
structure Reader where
  tree : TreeBuilder := {}
  rawText : Option String := none

namespace Reader

def data (r : Reader) (text : String) : Reader := { r with tree := r.tree.data text }

/-- Data as it appears outside raw text: references decoded. -/
def decodedData (r : Reader) (cs : List Char) : Reader :=
  if r.rawText.isSome then r.data (String.ofList cs) else r.data (unescape (String.ofList cs))

/-- A start tag at the front (`<` and a letter): the length it takes. -/
def startTag (r : Reader) (cs : List Char) : Reader × Option Nat :=
  match startTagEnd? cs with
  | none => (r, none)
  | some endPos =>
    let nameLen := tagNameLength (cs.drop 1)
    let tag := Text.lower (String.ofList ((cs.drop 1).take nameLen))
    let k := 1 + nameLen + gapLength (cs.drop (1 + nameLen))
    let found := if k < endPos then attributesFrom cs.length k cs else []
    let attrs := takeStartingBefore endPos k found
    let k := match attrs.getLast? with
      | some (_, _, e) => e
      | none => k
    let closing := Text.trimChars ((cs.drop k).take (endPos - k))
    let pairs := attrs.map fun (n, v, _) => (Text.lower (String.ofList n), attributeValue v)
    if closing == ['/', '>'] then ({ r with tree := r.tree.emptyTag tag pairs }, some endPos)
    else if closing == ['>'] then
      let r := { r with tree := r.tree.startTag tag pairs }
      (if rawTextTags.contains tag then { r with rawText := some tag } else r, some endPos)
    else (r.data (String.ofList (cs.take endPos)), some endPos)

/-- The length of a bogus comment from `<!` or `</` to the next `>`. -/
def bogusComment (cs : List Char) : Option Nat := (findFrom '>' 2 cs).map (· + 1)

/-- An end tag at the front (`</`): the length it takes. -/
def endTag (r : Reader) (cs : List Char) : Reader × Option Nat :=
  match findFrom '>' 1 cs with
  | none => (r, none)
  | some gt =>
    let gtEnd := gt + 1
    let body := cs.drop 2
    let blanks := (body.takeWhile Text.isBlank).length
    let named := body.drop blanks
    let name := match named with
      | c :: rest =>
        if isAsciiLetter c then
          c :: rest.takeWhile fun d => isAsciiLetter d || d.isDigit || d == '-' || d == '.' || d == ':' || d == '_'
        else []
      | [] => []
    let afterName := named.drop name.length
    let trailing := afterName.dropWhile Text.isBlank
    let exact := !name.isEmpty && trailing.head? == some '>'
    if exact then
      let tag := Text.lower (String.ofList name)
      match r.rawText with
      | some raw =>
        if tag != raw then (r.data (String.ofList (cs.take gtEnd)), some gtEnd)
        else ({ r with tree := r.tree.endTag tag, rawText := none }, some gtEnd)
      | none => ({ r with tree := r.tree.endTag tag }, some gtEnd)
    else if r.rawText.isSome then (r.data (String.ofList (cs.take gtEnd)), some gtEnd)
    else
      match cs.drop 2 with
      | c :: _ =>
        if isAsciiLetter c then
          let nameLen := tagNameLength (cs.drop 2)
          let tag := Text.lower (String.ofList ((cs.drop 2).take nameLen))
          let nameEnd := 2 + nameLen + gapLength (cs.drop (2 + nameLen))
          match findFrom '>' nameEnd cs with
          | some p => ({ r with tree := r.tree.endTag tag }, some (p + 1))
          | none => ({ r with tree := r.tree.endTag tag }, some 0)
        else if startsWith cs "</>".toList then (r, some 3)
        else (r, bogusComment cs)
      | [] => (r, bogusComment cs)

/-- The length of a comment `<!--` … `--` blanks `>`. -/
def commentEnd? (cs : List Char) : Option Nat :=
  let rec scan (fuel pos : Nat) : Option Nat :=
    match fuel with
    | 0 => none
    | fuel + 1 =>
      match findFrom '-' pos cs with
      | none => none
      | some p =>
        if cs[p + 1]? == some '-' then
          let blanks := ((cs.drop (p + 2)).takeWhile Text.isBlank).length
          if cs[p + 2 + blanks]? == some '>' then some (p + 3 + blanks) else scan fuel (p + 1)
        else scan fuel (p + 1)
  scan cs.length 4

/-- The length of a marked section `<![name` … `]]>` (or `]>` for the
conditional ones). -/
def markedSectionEnd? (cs : List Char) : Option Nat :=
  let body := cs.drop 3
  match body with
  | c :: rest =>
    if !isAsciiLetter c then none
    else
      let name := c :: rest.takeWhile fun d => isAsciiLetter d || d.isDigit || d == '-' || d == '_' || d == '.'
      let afterName := body.drop name.length
      let blanks := (afterName.takeWhile Text.isBlank).length
      if 3 + name.length + blanks == cs.length then none
      else
        let key := Text.lower (String.ofList name)
        let closing := if ["temp", "cdata", "ignore", "include", "rcdata"].contains key then some "]]>".toList
          else if ["if", "else", "endif"].contains key then some "]>".toList
          else none
        closing.bind fun cl =>
          ((List.range cs.length).find? fun p => p ≥ 3 && startsWith (cs.drop p) cl).map (· + cl.length)
  | [] => none

/-- A declaration `<!…`: the length it takes. -/
def declarationEnd? (cs : List Char) : Option Nat :=
  if startsWith cs "<![".toList then markedSectionEnd? cs
  else if Text.lowerChars (cs.take 9) == "<!doctype".toList then (findFrom '>' 9 cs).map (· + 1)
  else bogusComment cs

/-- The markup at the front (`<`): the reader after it and the length it
takes, or none when the input may be cut short inside it. -/
def markup (r : Reader) (atEnd : Bool) (cs : List Char) : Reader × Option Nat :=
  match cs with
  | '<' :: c :: _ =>
    if isAsciiLetter c then r.startTag cs
    else if c == '/' then r.endTag cs
    else if startsWith cs "<!--".toList then (r, commentEnd? cs)
    else if c == '?' then (r, (findFrom '>' 2 cs).map (· + 1))
    else if c == '!' then (r, declarationEnd? cs)
    else (r.data "<", some 1)
  | _ => if atEnd then (r.data "<", some 1) else (r, none)

/-- Whether data at the end may hold a character reference cut short: an `&`
among the last 34 characters with no blank or `;` after it. -/
def mayEndInReference (cs : List Char) : Bool :=
  let tail := cs.drop (cs.length - 34)
  match (tail.reverse.findIdx? (· == '&')) with
  | some i => !((tail.drop (tail.length - 1 - i)).any fun c => Text.isBlank c || c == ';')
  | none => false

/-- Where raw text ends: the first end tag of the raw element. -/
def rawTextEnd? (tag : String) (cs : List Char) : Option Nat :=
  (List.range cs.length).find? fun p =>
    match cs.drop p with
    | '<' :: '/' :: rest =>
      let rest := rest.dropWhile Text.isBlank
      Text.lowerChars (rest.take tag.length) == tag.toList &&
        ((rest.drop tag.length).dropWhile Text.isBlank).head? == some '>'
    | _ => false

/-- One pass over the text: the reader after it and the text left for the next
pass. Every step takes at least one character, so the text's length bounds the
steps. -/
def pass (atEnd : Bool) (fuel : Nat) (r : Reader) (cs : List Char) : Reader × List Char :=
  match fuel, cs with
  | 0, cs => (r, cs)
  | _, [] => (r, [])
  | fuel + 1, cs =>
    let next : Option Nat := match r.rawText with
      | some tag => rawTextEnd? tag cs
      | none =>
        match cs.findIdx? (· == '<') with
        | some j => some j
        | none => if mayEndInReference cs then none else some cs.length
    match next with
    | none =>
      if r.rawText.isSome then (r, cs)
      else if atEnd then (r.decodedData cs, [])
      else (r, cs)
    | some j =>
      let r := if j > 0 then r.decodedData (cs.take j) else r
      let cs := cs.drop j
      if cs.isEmpty then (r, [])
      else
        match r.markup atEnd cs with
        | (r, some k) =>
          if k = 0 then (r, cs) else pass atEnd fuel r (cs.drop k)
        | (r, none) =>
          if !atEnd then (r, cs)
          else
            let k := match findFrom '>' 1 cs with
              | some p => p + 1
              | none => (findFrom '<' 1 cs).getD 1
            pass atEnd fuel (r.decodedData (cs.take k)) (cs.drop k)

end Reader

/-- Reads an HTML text into a tree under a `document` root element. -/
def parse (text : String) : Element :=
  let cs := text.toList
  let (r, rest) := Reader.pass false (cs.length + 1) {} cs
  let (r, _) := Reader.pass true (rest.length + 1) r rest
  r.tree.finish

end VCard.Html
