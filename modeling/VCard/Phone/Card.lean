import VCard.Phone.Number
import VCard.Card
/-! Telephone numbers on cards.

A number written as free text becomes a `tel:` URI in E.164 form (with
`;ext=` for an extension) when it reads as a valid number of the region it is
dialled from; `formatted` writes a valid number in international form with
spaces between the groups (British mobile numbers as `+44 7xxx xxx xxx`) and
leaves anything else as it is.

The region a card's numbers are dialled from is guessed from the first address
that names a country: a name of two letters (of any script) is taken, in
capitals, for a region code, and some
country names in English are known. -/
namespace VCard

namespace Phone

/-- A number read for a region, when it is possible and valid. -/
def validNumber? (text region : String) : Option Number :=
  match parse text region with
  | .ok n => if isPossible n && isValid n then some n else none
  | .error _ => none

/-- A `tel:` URI in E.164 form, when the text is a valid number. -/
def telUri? (text region : String) : Option String :=
  (validNumber? text region).map fun n =>
    "tel:" ++ e164 n ++ (if n.extension.isEmpty then "" else ";ext=" ++ n.extension)

/-- The international form with groups between single spaces. -/
def spaced (n : Number) : String :=
  let raw := (international n).toList.filterMap fun c =>
    if c == '-' then some ' ' else if c == '(' || c == ')' then none else some c
  let out := " ".intercalate (Text.words (String.ofList raw))
  let nsn := n.national.toList
  if regionOf? n == some "GB" && nsn.length == 10 && nsn.head? == some '7' then
    "+44 " ++ String.ofList (nsn.take 4) ++ " " ++ String.ofList ((nsn.drop 4).take 3) ++ " " ++
      String.ofList (nsn.drop 7)
  else out

/-- A valid number in international form; any other text as it is. -/
def formatted (text region : String) : String :=
  match validNumber? text region with
  | some n => spaced n
  | none => text

/-- Country names known in addresses, with their regions. -/
def countryNames : List (String × String) :=
  [("United Kingdom", "GB"), ("UK", "GB"), ("Great Britain", "GB"), ("England", "GB"),
   ("Scotland", "GB"), ("Wales", "GB"), ("Northern Ireland", "GB"), ("United States", "US"),
   ("USA", "US"), ("U.S.A.", "US"), ("Australia", "AU"), ("Canada", "CA"), ("Ireland", "IE"),
   ("France", "FR"), ("Germany", "DE"), ("Spain", "ES"), ("Italy", "IT"), ("Netherlands", "NL"),
   ("Sweden", "SE")]

/-- The region a country names: a two-letter name in capitals, or a known name. -/
def regionOfCountry? (country : String) : Option String :=
  let c := Text.trim country
  if c.length == 2 && c.toList.all Text.isLetter then some (Text.upper c)
  else (countryNames.find? (·.1 == c)).map (·.2)

/-- The region of the first address with a country that names one, else the
default. -/
def regionForCard (card : Card) (default : String) : String :=
  let found := (card.propertiesNamed "ADR").findSome? fun p =>
    match p.value with
    | .address a =>
      match a.countries with
      | c :: _ => if c.isEmpty then none else regionOfCountry? c
      | [] => none
    | _ => none
  found.getD default

/-- Turns the free-text numbers of `TEL` properties into `tel:` URIs where they
are valid; gives the card and how many were turned. -/
def telephonesToUris (card : Card) (default : String) (inferFromAddress : Bool := true) :
    Card × Nat :=
  let region := if inferFromAddress then regionForCard card default else default
  let step (acc : List Property × Nat) (p : Property) : List Property × Nat :=
    if p.name != "TEL" then (acc.1 ++ [p], acc.2)
    else match p.value with
      | .telephone (.text t) =>
        match telUri? t region with
        | some uri => (acc.1 ++ [{ p with value := .telephone (.uri uri) }], acc.2 + 1)
        | none => (acc.1 ++ [p], acc.2)
      | _ => (acc.1 ++ [p], acc.2)
  let (props, count) := card.properties.foldl step ([], 0)
  ({ card with properties := props }, count)

end Phone

end VCard
