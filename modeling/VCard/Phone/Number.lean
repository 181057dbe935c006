import VCard.Phone.Directory
import VCard.Text.Case
import VCard.Text.Blank
/-! Telephone numbers: reading them from free text, checking them against the
numbering plans, and writing them in international form.

Reading follows the common rules of telephone number libraries:

* the number starts at the first `+` or digit and ends before trailing
  characters that are neither digits, letters nor `#`, and before a second
  number introduced by `/ x`; an `;isub=` subaddress is dropped, and a
  `;phone-context=` of a `tel:` URI supplies the front of the number;
* what remains must look like a number: two digits, or three digits or more
  among punctuation, optionally followed by an extension;
* an extension (`ext. 42`, `x42`, `;ext=42`, `,,42`, `- 42#` and the like) is
  split off when the text before it looks like a number too;
* the country calling code comes after a `+`, or after the international
  prefix of the region, or is the region's own when the number starts with it
  and is a better national number without it; otherwise the region's own code
  applies, and the region must then be known;
* letters stand for digits (`ABC` is 2, …) when there are at least three;
* the national prefix is dropped (or replaced, where it stands for digits)
  when what is left is still a plausible national number and long enough.

A number is possible when its length is one of its plan's, and valid when it
matches one of the kinds of numbers of the region it belongs to. Of regions
sharing a calling code, a number belongs to the first whose leading digits
start it or, for a region without leading digits, whose kinds it matches. -/
namespace VCard

namespace Phone

/-- A telephone number: calling code, national significant number and
extension (empty when there is none). -/
structure Number where
  code : Nat
  national : String
  extension : String := ""
  deriving DecidableEq, Repr

/-- Why a text is not a telephone number. -/
inductive ParseError where
  | notANumber
  | invalidCountryCode
  | tooShortAfterIdd
  | tooShortNsn
  | tooLong
  deriving DecidableEq, Repr

def isPlus (c : Char) : Bool := c == '+' || c == '\uFF0B'

def isAsciiLetter (c : Char) : Bool := ('a' ≤ c && c ≤ 'z') || ('A' ≤ c && c ≤ 'Z')

/-- A character in lower case, when that is one character. -/
def foldCase (c : Char) : Char :=
  match Text.lowerChar c with
  | [d] => d
  | _ => c

/-- Punctuation that may stand between the digits of a number, as a class body. -/
def punctuation : String :=
  "-x\u2010-\u2015\u2212\u30FC\uFF0D-\uFF0F \u00A0\u00AD\u200B\u2060\u3000()\uFF08\uFF09\uFF3B\uFF3D.\\[\\]/~\u2053\u223C\uFF5E"

/-- The ways an extension is written, at the end of a number (lower case). -/
def extensionPattern : String :=
  let sep := "[ \u00A0\t,]*"
  let after := "[:\\.\uFF0E]?[ \u00A0\t,-]*"
  let digits (n : String) : String := "(\\d<1," ++ n ++ ">)"
  let explicitLabel := "(?:e?xt(?:ensi(?:o\u0301?|\u00F3))?n?|\uFF45?\uFF58\uFF54\uFF4E?|\u0434\u043E\u0431|anexo)"
  let ambiguousLabel := "(?:[x\uFF58#\uFF03~\uFF5E]|int|\uFF49\uFF4E\uFF54)"
  "|".intercalate [
    ";ext=" ++ digits "20",
    sep ++ explicitLabel ++ after ++ digits "20" ++ "#?",
    sep ++ ambiguousLabel ++ after ++ digits "9" ++ "#?",
    "[- ]+" ++ digits "6" ++ "#",
    "[ \u00A0\t]*(?:,<2>|;)" ++ after ++ digits "15" ++ "#?",
    "[ \u00A0\t]*(?:,)+" ++ after ++ digits "9" ++ "#?"]

/-- What a number looks like: two digits, or digits among punctuation with an
optional extension. -/
def numberPattern : Pattern :=
  Pattern.ofString ("\\d<2>|[+\uFF0B]*(?:[" ++ punctuation ++ "*]*\\d)<3,>(?:[" ++ punctuation ++
    "*a-z]|\\d)*(?:" ++ extensionPattern ++ ")?")

/-- Whether a text looks like a telephone number. -/
def isViable (cs : List Char) : Bool :=
  cs.length ≥ 2 && numberPattern.matchesAll (cs.map foldCase)

/-- Cuts a text down to where a number may be: from the first `+` or digit,
without trailing characters other than digits, letters and `#`, and before a
second number. -/
def possibleNumber (cs : List Char) : List Char :=
  match cs.findIdx? fun c => isPlus c || Text.isDecimal c with
  | none => []
  | some i =>
    let cs := cs.drop i
    let keep (c : Char) : Bool := Text.isDecimal c || isAsciiLetter c || c == '#'
    let cs := (cs.reverse.dropWhile (!keep ·)).reverse
    let second := (List.range cs.length).find? fun p =>
      match cs.drop p with
      | c :: rest => (c == '\\' || c == '/') && (rest.dropWhile (· == ' ')).head? == some 'x'
      | [] => false
    match second with
    | some p => cs.take p
    | none => cs

/-- The place of the first occurrence of a text in another. -/
def findText (cs pat : List Char) : Option Nat :=
  (List.range (cs.length + 1)).find? fun p => (cs.drop p).take pat.length == pat

/-- The part of a text to read as a number: the possible number, or the number
of a `tel:` URI with its phone context; an ISDN subaddress is dropped. -/
def nationalPart (cs : List Char) : Except ParseError (List Char) := do
  let base ← match findText cs ";phone-context=".toList with
    | some i =>
      let start := i + 15
      let context := (cs.drop start).takeWhile (· != ';')
      if context.isEmpty then throw .notANumber
      let front := if context.head? == some '+' then context else []
      let numberStart := match findText cs "tel:".toList with
        | some t => t + 4
        | none => 0
      pure (front ++ (cs.drop numberStart).take (i - numberStart))
    | none => pure (possibleNumber cs)
  match findText base ";isub=".toList with
  | some j => if j > 0 then pure (base.take j) else pure base
  | none => pure base

/-- Splits off an extension: the extension's digits and the number before it. -/
def splitExtension (cs : List Char) : String × List Char :=
  let pattern := Pattern.ofString extensionPattern
  let lowered := cs.map foldCase
  match (List.range cs.length).find? fun p => pattern.matchesAll (lowered.drop p) with
  | some p =>
    if isViable (cs.take p) then
      let tail := (cs.drop p).reverse
      let tail := match tail with
        | '#' :: rest => rest
        | rest => rest
      (String.ofList (tail.takeWhile Text.isDecimal).reverse, cs.take p)
    else ("", cs)
  | none => ("", cs)

/-- The digit a letter stands for on a telephone keypad. -/
def keypadDigit (c : Char) : Option Char :=
  let u := (Text.upperChar c).headD c
  if '0' ≤ u && u ≤ '9' then some u
  else if u == 'A' || u == 'B' || u == 'C' then some '2'
  else if u == 'D' || u == 'E' || u == 'F' then some '3'
  else if u == 'G' || u == 'H' || u == 'I' then some '4'
  else if u == 'J' || u == 'K' || u == 'L' then some '5'
  else if u == 'M' || u == 'N' || u == 'O' then some '6'
  else if u == 'P' || u == 'Q' || u == 'R' || u == 'S' then some '7'
  else if u == 'T' || u == 'U' || u == 'V' then some '8'
  else if u == 'W' || u == 'X' || u == 'Y' || u == 'Z' then some '9'
  else none

/-- The digits of a text: letters stand for digits when there are three of
them or more; otherwise digits of any script are kept. -/
def normalize (cs : List Char) : List Char :=
  if (cs.filter isAsciiLetter).length ≥ 3 then cs.filterMap keypadDigit
  else cs.filterMap fun c => (Text.digitValue? c).map fun d => Char.ofNat (48 + d)

/-- How a length fits a plan. -/
inductive LengthFit where
  | possible
  | possibleLocally
  | tooShort
  | tooLong
  | invalid
  deriving DecidableEq, Repr

def lengthFit (cs : List Char) (p : Plan) : LengthFit :=
  let n := cs.length
  if p.localLengths.contains n then .possibleLocally
  else match p.lengths with
    | [] => .invalid
    | least :: others =>
      if n == least then .possible
      else if n < least then .tooShort
      else if (others.getLast?.getD least) < n then .tooLong
      else if others.contains n then .possible
      else .invalid

/-- Whether a national number has the general shape of a plan's numbers. -/
def matchesGeneral (cs : List Char) (p : Plan) : Bool := (Pattern.ofString p.general).matchesAll cs

/-- Fills a template's `$n` with the text of group `n`. -/
def fillTemplate (template : List Char) (caps : Pattern.Captures) : List Char :=
  match template with
  | '$' :: d :: rest =>
    if '1' ≤ d && d ≤ '9' then ((caps.get? (d.toNat - 48)).getD []) ++ fillTemplate rest caps
    else '$' :: fillTemplate (d :: rest) caps
  | c :: rest => c :: fillTemplate rest caps
  | [] => []

/-- Drops the national prefix (or puts the plan's replacement in its place,
when the prefix's last group took part) unless the number had the shape of a
national number before and has lost it. -/
def dropNationalPrefix (cs : List Char) (p : Plan) : List Char :=
  if cs.isEmpty || p.nationalPrefix.isEmpty then cs
  else
    let pattern := Pattern.ofString p.nationalPrefix
    match pattern.frontCaptures? cs with
    | none => cs
    | some (n, caps) =>
      let replaced := !p.transform.isEmpty && (caps.get? pattern.groupCount).isSome
      let rest := if replaced then fillTemplate p.transform.toList caps ++ cs.drop n else cs.drop n
      if matchesGeneral cs p && !matchesGeneral rest p then cs else rest

/-- The calling code at the front of digits, and the digits after it. -/
def leadingCode (cs : List Char) : Option (Nat × List Char) :=
  if cs.isEmpty || cs.head? == some '0' then none
  else
    ([1, 2, 3].filter (· ≤ cs.length)).findSome? fun k =>
      let code := (cs.take k).foldl (fun n c => 10 * n + (c.toNat - 48)) 0
      if (regionsOf code).isEmpty then none else some (code, cs.drop k)

/-- Where the calling code of a number was found. -/
inductive CodeSource where
  | plusSign
  | internationalPrefix
  | region
  deriving DecidableEq

/-- Drops a leading `+` or international prefix; gives where the code comes
from and the normalized digits. -/
def dropInternationalPrefix (cs : List Char) (prefixPattern : Option String) : CodeSource × List Char :=
  if cs.isEmpty then (.region, cs)
  else if cs.head?.any isPlus then (.plusSign, normalize (cs.dropWhile isPlus))
  else
    let digits := normalize cs
    match prefixPattern.bind fun pat => (Pattern.ofString pat).frontMatch? digits with
    | some n =>
      let rest := digits.drop n
      if rest.head? == some '0' then (.region, digits) else (.internationalPrefix, rest)
    | none => (.region, digits)

/-- The calling code of a number given to a region's plan: zero when the
number holds none, with the number as given. -/
def splitCode (cs : List Char) (plan : Option Plan) : Except ParseError (Nat × List Char) := do
  if cs.isEmpty then return (0, cs)
  let (source, full) := dropInternationalPrefix cs (plan.map (·.internationalPrefix))
  if source != .region then
    if full.length ≤ 2 then throw .tooShortAfterIdd
    match leadingCode full with
    | some r => return r
    | none => throw .invalidCountryCode
  match plan with
  | some p =>
    let codeText := (toString p.code).toList
    if full.take codeText.length == codeText then
      let rest := dropNationalPrefix (full.drop codeText.length) p
      if (!matchesGeneral full p && matchesGeneral rest p) || lengthFit full p == .tooLong then
        return (p.code, rest)
    return (0, cs)
  | none => return (0, cs)

/-- Reads a telephone number from text, for a region (used when the number
carries no calling code). -/
def parse (text : String) (region : String) : Except ParseError Number := do
  let cs := text.toList
  if cs.length > 250 then throw .tooLong
  let national ← nationalPart cs
  if !isViable national then throw .notANumber
  let regionPlan := planFor? region
  if regionPlan.isNone && !(national.head?.any isPlus) then throw .invalidCountryCode
  let (extension, national) := splitExtension national
  let (code, digits) ← match splitCode national regionPlan with
    | .ok r => pure r
    | .error .invalidCountryCode =>
      if national.head?.any isPlus then
        let (code, digits) ← splitCode (national.dropWhile isPlus) regionPlan
        if code == 0 then throw .invalidCountryCode
        pure (code, digits)
      else throw .invalidCountryCode
    | .error e => throw e
  let (code, digits, plan) :=
    if code != 0 then
      (code, digits, mainPlan? code)
    else ((regionPlan.map (·.code)).getD 0, normalize national, regionPlan)
  let digits := match plan with
    | some p =>
      let shorter := dropNationalPrefix digits p
      match lengthFit shorter p with
      | .tooShort | .possibleLocally | .invalid => digits
      | _ => shorter
    | none => digits
  if digits.length < 2 then throw .tooShortNsn
  if digits.length > 17 then throw .tooLong
  return { code, national := String.ofList digits, extension }

/-- Whether a national number is of some kind in use in a plan. -/
def isOfSomeKind (cs : List Char) (p : Plan) : Bool :=
  p.lengths.contains cs.length && matchesGeneral cs p &&
    p.kinds.any fun k => (Pattern.ofString k).matchesAll cs

/-- The region a number belongs to: of its calling code's regions, the first
whose leading digits start it or, without leading digits, where it is of some
kind in use. -/
def regionOf? (n : Number) : Option String :=
  match regionsOf n.code with
  | [r] => some r
  | rs => rs.find? fun r => match planFor? r with
    | some p =>
      if p.leadingDigits.isEmpty then isOfSomeKind n.national.toList p
      else (Pattern.ofString p.leadingDigits).matchesFront n.national.toList
    | none => false

/-- Whether a number has a possible length for its calling code. -/
def isPossible (n : Number) : Bool :=
  match mainPlan? n.code with
  | some p =>
    match lengthFit n.national.toList p with
    | .possible | .possibleLocally => true
    | _ => false
  | none => false

/-- Whether a number is of some kind in use in its region. -/
def isValid (n : Number) : Bool :=
  match (regionOf? n).bind planFor? with
  | some p => p.code == n.code && isOfSomeKind n.national.toList p
  | none => false

/-- The layouts of a plan for international form. -/
def internationalLayouts (p : Plan) : List Layout :=
  if p.layouts.all (·.international == .asAtHome) then p.layouts
  else p.layouts.filterMap fun l =>
    match l.international with
    | .asAtHome => some l
    | .hidden => none
    | .written t => some { l with template := t }

/-- Whether a layout fits a national number: its leading digits start it and
its pattern matches it whole. -/
def Layout.fits (l : Layout) (cs : List Char) : Bool :=
  (l.leading.isEmpty || (Pattern.ofString l.leading).matchesFront cs) &&
    (Pattern.ofString l.pattern).matchesAll cs

/-- A national number laid out by the first layout that fits it: the groups of
the layout's first match go into its template. -/
def layOut (layouts : List Layout) (cs : List Char) : List Char :=
  match layouts.find? (·.fits cs) with
  | some l =>
    match (Pattern.ofString l.pattern).frontCaptures? cs with
    | some (n, caps) => fillTemplate l.template.toList caps ++ cs.drop n
    | none => cs
  | none => cs

/-- The E.164 form: `+`, the calling code and the national number. -/
def e164 (n : Number) : String := "+" ++ toString n.code ++ n.national

/-- The international form: `+`, the calling code, a space and the national
number laid out, then the extension. -/
def international (n : Number) : String :=
  match mainPlan? n.code with
  | none => n.national
  | some p =>
    let body := String.ofList (layOut (internationalLayouts p) n.national.toList)
    let body := if n.extension.isEmpty then body else body ++ p.extensionPrefix ++ n.extension
    "+" ++ toString n.code ++ " " ++ body

end Phone

end VCard
