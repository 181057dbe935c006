import VCard.Html.Parse
import VCard.Url
/-! Reading values out of hCard markup.

An hCard marks the parts of a card with class names on HTML elements: an
element of class `fn` holds the formatted name, one of class `adr` an address
whose parts are elements of classes `street-address`, `locality` and so on.

The value of an element is, in this order of preference: the `title` of an
`abbr` element; the values of its outermost descendants of class `value`, put
together; or its text. Text is gathered in document order with every run of
blanks turned into one space, `br` giving a line break, and `del` elements and
elements of class `type` left out; the result is trimmed.

Links are resolved against the base URL of the page when there is one. -/
namespace VCard.HCard

open Xml (Element)

/-- The tag of an element. -/
def tag (e : Element) : String := e.name.localName

/-- An attribute, the empty text when absent. -/
def attr (e : Element) (name : String) : String := (e.attr? ⟨none, name⟩).getD ""

/-- The class names of an element, lowered. -/
def classNames (e : Element) : List String := Text.words (Text.lower (attr e "class"))

def hasClass (e : Element) (name : String) : Bool := (classNames e).contains name

/-- A link attribute resolved against the base URL, or why it cannot be. -/
def absUrl (base : Option String) (e : Element) (name : String) : Except String String :=
  let value := attr e name
  if value.isEmpty then .ok ""
  else match base with
    | some b => if b.isEmpty then .ok value else Url.join b value
    | none => .ok value

/-- The elements below an element (itself not included) that have a class, in
document order. -/
def findAll (e : Element) (name : String) : List Element :=
  (Element.descendantsOf e.children).filter (hasClass · name)

/-- Every run of blanks as one space. -/
def collapseBlanks (s : String) : String :=
  let step (acc : List Char × Bool) (c : Char) : List Char × Bool :=
    if Text.isBlank c then (if acc.2 then acc else (' ' :: acc.1, true)) else (c :: acc.1, false)
  String.ofList (s.toList.foldl step ([], false)).1.reverse

mutual

/-- The text of an element, as its value reads it. -/
def visibleText : Element → String
  | ⟨_, _, text, children, _⟩ => collapseBlanks text ++ visibleTextOf children

/-- The text of children and their tails. -/
def visibleTextOf : List Element → String
  | [] => ""
  | c :: rest =>
    let inner :=
      if tag c == "br" then "\n"
      else if tag c == "del" || hasClass c "type" then ""
      else visibleText c
    inner ++ collapseBlanks c.tail ++ visibleTextOf rest

end

mutual

/-- The outermost elements of a class among some elements and below them. -/
def outermostOf (name : String) : List Element → List Element
  | [] => []
  | c :: rest => (if hasClass c name then [c] else outermostBelow name c) ++ outermostOf name rest

/-- The outermost elements of a class below an element. -/
def outermostBelow (name : String) : Element → List Element
  | ⟨_, _, _, children, _⟩ => outermostOf name children

end

/-- The `title` of an `abbr` element, when it has one. -/
def abbrTitle? (e : Element) : Option String :=
  if tag e == "abbr" && !(attr e "title").isEmpty then some (attr e "title") else none

/-- The value of an element. -/
def value (e : Element) : String :=
  match abbrTitle? e with
  | some t => t
  | none =>
    let parts := outermostBelow "value" e
    let text := if parts.isEmpty then visibleText e
      else String.join (parts.map fun p => (abbrTitle? p).getD (visibleText p))
    Text.trim text

/-- The value of the first element of a class below an element. -/
def firstValue? (e : Element) (name : String) : Option String := (findAll e name).head?.map value

/-- The values of the elements of a class below an element. -/
def allValues (e : Element) (name : String) : List String := (findAll e name).map value

/-- The `type` words below an element, lowered. -/
def types (e : Element) : List String := (allValues e "type").map Text.lower

/-- The outermost elements of class `vcard` below an element. -/
def outermostCards (e : Element) : List Element := outermostBelow "vcard" e

end VCard.HCard
