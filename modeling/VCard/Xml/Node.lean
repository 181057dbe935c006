import VCard.Text.Blank
/-! XML elements as a tree, and how such a tree is written out.

An element has an expanded name (namespace and local name), attributes in
document order, the text before its first child, its children, and the text
that follows it inside its parent (its *tail*). Comments and processing
instructions are not kept.

Writing an element (`Element.render`) gives every namespace in use a prefix —
the registered one (`knownPrefixes`: the xCard namespace is the default
namespace), else `ns1`, `ns2`, … in order of first use — and declares them all
on the outermost element, sorted by prefix. An element without text or
children is written `<name />`. Text escapes `&`, `<` and `>`; attribute values
also escape `"` and the characters tab, line feed and carriage return. An
element's tail is written after it, also for the outermost one.

`Element.indent` lays a tree out with one level of two spaces per depth, the
way pretty printers do: blank text before a first child and blank tails become
line breaks and indentation. -/
namespace VCard.Xml

/-- An expanded name: namespace and local name. -/
structure Name where
  ns : Option String := none
  localName : String
  deriving DecidableEq, Repr, Inhabited

/-- An element of a tree. -/
structure Element where
  name : Name
  attrs : List (Name × String) := []
  text : String := ""
  children : List Element := []
  tail : String := ""
  deriving Inhabited

/-- The namespace of xCard. -/
def xcardNs : String := "urn:ietf:params:xml:ns:vcard-4.0"

/-- The namespace of the `xml:` prefix. -/
def xmlNs : String := "http://www.w3.org/XML/1998/namespace"

/-- Namespaces with a registered prefix; the empty prefix makes the namespace
the default one. -/
def knownPrefixes : List (String × String) :=
  [(xcardNs, ""), (xmlNs, "xml"), ("http://www.w3.org/1999/xhtml", "html"),
   ("http://www.w3.org/1999/02/22-rdf-syntax-ns#", "rdf"), ("http://schemas.xmlsoap.org/wsdl/", "wsdl"),
   ("http://www.w3.org/2001/XMLSchema", "xs"), ("http://www.w3.org/2001/XMLSchema-instance", "xsi"),
   ("http://purl.org/dc/elements/1.1/", "dc")]

namespace Element

/-- An element of a name with text and no attributes or children. -/
def leaf (name : Name) (text : String) : Element := { name, text }

/-- The first attribute of a name. -/
def attr? (e : Element) (n : Name) : Option String := (e.attrs.find? (·.1 == n)).map (·.2)

mutual
/-- The element and all elements below it, in document order. -/
def descendants : Element → List Element
  | e@⟨_, _, _, children, _⟩ => e :: descendantsOf children

def descendantsOf : List Element → List Element
  | [] => []
  | c :: rest => descendants c ++ descendantsOf rest
end

end Element

/-- Escapes text content. -/
def escapeText (s : String) : String :=
  String.join (s.toList.map fun c =>
    match c with
    | '&' => "&amp;"
    | '<' => "&lt;"
    | '>' => "&gt;"
    | c => c.toString)

/-- Escapes an attribute value. -/
def escapeAttr (s : String) : String :=
  String.join (s.toList.map fun c =>
    match c with
    | '&' => "&amp;"
    | '<' => "&lt;"
    | '>' => "&gt;"
    | '"' => "&quot;"
    | '\r' => "&#13;"
    | '\n' => "&#10;"
    | '\t' => "&#09;"
    | c => c.toString)

/-- Prefixes for the namespaces in use, in order of first use: the registered
prefix, else `ns` and the number of namespaces seen before. The `xml` namespace
needs no declaration. -/
def assignPrefixes (names : List Name) : List (String × String) :=
  names.foldl (fun acc n =>
    match n.ns with
    | none => acc
    | some uri =>
      if acc.any (·.1 == uri) then acc
      else
        let p := match knownPrefixes.find? (·.1 == uri) with
          | some (_, p) => p
          | none => "ns" ++ toString acc.length
        if p == "xml" then acc else acc ++ [(uri, p)]) []

/-- The written form of a name under the chosen prefixes. -/
def qualify (prefixes : List (String × String)) (n : Name) : String :=
  match n.ns with
  | none => n.localName
  | some uri =>
    let p := match prefixes.find? (·.1 == uri) with
      | some (_, p) => p
      | none => if uri == xmlNs then "xml" else ""
    if p.isEmpty then n.localName else p ++ ":" ++ n.localName

/-- Every name in a tree in the order the writer meets them: an element's name,
then its attribute names, then its children. -/
def namesInUse (e : Element) : List Name :=
  e.descendants.flatMap fun d => d.name :: d.attrs.map (·.1)

mutual
/-- Writes an element and its tail. -/
def renderWith (prefixes : List (String × String)) (decls : String) : Element → String
  | ⟨name, attrs, text, children, tail⟩ =>
    let tag := qualify prefixes name
    let attrs := String.join (attrs.map fun (n, v) => " " ++ qualify prefixes n ++ "=\"" ++ escapeAttr v ++ "\"")
    let body :=
      if text.isEmpty && children.isEmpty then "<" ++ tag ++ decls ++ attrs ++ " />"
      else
        "<" ++ tag ++ decls ++ attrs ++ ">" ++ escapeText text ++ renderAll prefixes children ++
          "</" ++ tag ++ ">"
    body ++ escapeText tail

def renderAll (prefixes : List (String × String)) : List Element → String
  | [] => ""
  | c :: rest => renderWith prefixes "" c ++ renderAll prefixes rest
end

/-- Declarations of the chosen prefixes, sorted by prefix. -/
def declarations (prefixes : List (String × String)) : String :=
  let sorted := prefixes.mergeSort (fun a b => decide (a.2 ≤ b.2))
  String.join (sorted.map fun (uri, p) =>
    " xmlns" ++ (if p.isEmpty then "" else ":" ++ p) ++ "=\"" ++ escapeAttr uri ++ "\"")

/-- The written form of an element, its tail included. -/
def Element.render (e : Element) : String :=
  let prefixes := assignPrefixes (namesInUse e)
  renderWith prefixes (declarations prefixes) e

/-- Whether a text is empty or blank. -/
def isBlankText (s : String) : Bool := s.toList.all Text.isBlank

mutual
/-- Lays out the children of an element at a depth (1 for the children of the
outermost element). -/
def indentChildren (level : Nat) : Element → Element
  | e@⟨name, attrs, text, children, tail⟩ =>
    if children.isEmpty then e
    else
      let inner := "\n".pushn ' ' (2 * level)
      let outer := "\n".pushn ' ' (2 * (level - 1))
      let text := if isBlankText text then inner else text
      let children := indentEach level inner children
      let children := match children.getLast? with
        | some last => if isBlankText last.tail then children.dropLast ++ [{ last with tail := outer }] else children
        | none => children
      ⟨name, attrs, text, children, tail⟩

def indentEach (level : Nat) (inner : String) : List Element → List Element
  | [] => []
  | c :: rest =>
    let c := indentChildren (level + 1) c
    let c := if isBlankText c.tail then { c with tail := inner } else c
    c :: indentEach level inner rest
end

/-- Lays out a tree with two spaces per level. -/
def Element.indent (e : Element) : Element := indentChildren 1 e

/-- A document: the XML declaration and the outermost element. -/
def Element.renderDocument (e : Element) : String :=
  "<?xml version='1.0' encoding='utf-8'?>\n" ++ e.render

end VCard.Xml
