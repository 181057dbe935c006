import VCard.Text.Digit
/-! Regular expressions over characters, for the tables of telephone numbering
plans.

A pattern is written the usual way: characters, `.` for any character, `\d`
for a decimal digit of any script, `$` for the end of the text, `\` before a
character to take it as it is, classes `[…]` with ranges and `^` for the
complement, groups `(…)` and `(?:…)`, alternatives with `|`, and the
repetitions `?`, `*` and `+`. A count
is written in angle brackets: `x<3>` is three `x`, `x<2,4>` two to four, `x<2,>`
two or more. Groups `(…)` are numbered from 1 in the order they open.

Matching asks whether a text, or a front part of it, is in the language of the
pattern. It explores the choices one after the other with continuations; each
step of a path down the pattern uses one unit of fuel, and a pattern's size
times the text's length bounds the steps any path takes, as each round of a
repetition consumes a character. Along the way it records the text each
numbered group matched last, on the path that succeeds. -/
namespace VCard

/-- A regular expression. -/
inductive Pattern where
  /-- One character within ranges (or outside them, when negated). -/
  | chars (ranges : List (Char × Char)) (negated : Bool)
  /-- One decimal digit, of any script. -/
  | digit
  | seq (parts : List Pattern)
  | alt (options : List Pattern)
  /-- Between `min` and `max` rounds of a pattern. -/
  | rep (p : Pattern) (min : Nat) (max : Option Nat)
  /-- A numbered group, whose text a match records. -/
  | group (index : Nat) (p : Pattern)
  /-- The end of the text. -/
  | atEnd
  deriving Inhabited, Repr

namespace Pattern

def literal (c : Char) : Pattern := .chars [(c, c)] false

def anyChar : Pattern := .chars [] true

/-- The number of nodes of a pattern. -/
def size : Pattern → Nat
  | .chars .. | .digit | .atEnd => 1
  | .seq ps => ps.attach.foldl (fun n ⟨p, _⟩ => n + size p) 1
  | .alt ps => ps.attach.foldl (fun n ⟨p, _⟩ => n + size p) 1
  | .rep p _ _ => size p + 1
  | .group _ p => size p + 1

/-- The texts numbered groups matched, the latest first. -/
abbrev Captures := List (Nat × List Char)

/-- The text a group matched, if it took part in the match. -/
def Captures.get? (caps : Captures) (index : Nat) : Option (List Char) :=
  (caps.find? (·.1 == index)).map (·.2)

/-- The first way the front of a text matches, in the order a backtracking
matcher tries them (alternatives left to right, repetitions as long as they go),
the rest of the text and the groups matched so far going to a continuation. -/
def step {α : Type} : Nat → Pattern → List Char → Captures → (List Char → Captures → Option α) → Option α
  | 0, _, _, _, _ => none
  | _ + 1, .chars ranges negated, c :: rest, caps, k =>
    if ranges.any (fun (lo, hi) => lo ≤ c && c ≤ hi) != negated then k rest caps else none
  | _ + 1, .chars .., [], _, _ => none
  | _ + 1, .digit, c :: rest, caps, k => if Text.isDecimal c then k rest caps else none
  | _ + 1, .digit, [], _, _ => none
  | _ + 1, .atEnd, cs, caps, k => if cs.isEmpty then k cs caps else none
  | _ + 1, .seq [], cs, caps, k => k cs caps
  | n + 1, .seq (p :: ps), cs, caps, k =>
    step n p cs caps fun rest caps => step n (.seq ps) rest caps k
  | _ + 1, .alt [], _, _, _ => none
  | n + 1, .alt (p :: ps), cs, caps, k => (step n p cs caps k).orElse fun _ => step n (.alt ps) cs caps k
  | n + 1, .rep p lo hi, cs, caps, k =>
    let again := if hi == some 0 then none
      else step n p cs caps fun rest caps =>
        if rest.length < cs.length then step n (.rep p (lo - 1) (hi.map (· - 1))) rest caps k else none
    again.orElse fun _ => if lo == 0 then k cs caps else none
  | n + 1, .group i p, cs, caps, k =>
    step n p cs caps fun rest caps => k rest ((i, cs.take (cs.length - rest.length)) :: caps)

/-- Fuel enough for every path of a pattern over a text. -/
def fuelFor (p : Pattern) (cs : List Char) : Nat := p.size * (cs.length + 2) + 2

/-- Whether the whole text matches. -/
def matchesAll (p : Pattern) (cs : List Char) : Bool :=
  (step (fuelFor p cs) p cs [] fun rest _ => if rest.isEmpty then some () else none).isSome

/-- The length of the first match at the front of a text, and what its groups
matched. -/
def frontCaptures? (p : Pattern) (cs : List Char) : Option (Nat × Captures) :=
  step (fuelFor p cs) p cs [] fun rest caps => some (cs.length - rest.length, caps)

/-- The length of the first match at the front of a text. -/
def frontMatch? (p : Pattern) (cs : List Char) : Option Nat := (frontCaptures? p cs).map (·.1)

/-- Whether a front part of the text matches. -/
def matchesFront (p : Pattern) (cs : List Char) : Bool := (frontMatch? p cs).isSome

mutual

/-- Numbers the groups of a pattern from `n` in the order they open; gives the
next free number. -/
def numberGroups : Pattern → Nat → Pattern × Nat
  | .group _ p, n => let r := numberGroups p (n + 1); (.group n r.1, r.2)
  | .seq ps, n => let r := numberAll ps n; (.seq r.1, r.2)
  | .alt ps, n => let r := numberAll ps n; (.alt r.1, r.2)
  | .rep p lo hi, n => let r := numberGroups p n; (.rep r.1 lo hi, r.2)
  | .chars ranges negated, n => (.chars ranges negated, n)
  | .digit, n => (.digit, n)
  | .atEnd, n => (.atEnd, n)

/-- Numbers the groups of patterns one after the other. -/
def numberAll : List Pattern → Nat → List Pattern × Nat
  | [], n => ([], n)
  | p :: ps, n =>
    let r := numberGroups p n
    let rs := numberAll ps r.2
    (r.1 :: rs.1, rs.2)

end

/-- The number of groups of a pattern. -/
def groupCount (p : Pattern) : Nat := (numberGroups p 1).2 - 1

/-! ### Reading patterns -/

/-- Reads a count `n`, `n,` or `n,m` up to `>`. -/
def readCount (cs : List Char) : Option (Nat × Option Nat × List Char) :=
  let num (xs : List Char) : Nat := xs.foldl (fun n c => 10 * n + (c.toNat - 48)) 0
  let lo := cs.takeWhile Char.isDigit
  let rest := cs.drop lo.length
  match rest with
  | '>' :: more => some (num lo, some (num lo), more)
  | ',' :: more =>
    let hi := more.takeWhile Char.isDigit
    match more.drop hi.length with
    | '>' :: after => some (num lo, if hi.isEmpty then none else some (num hi), after)
    | _ => none
  | _ => none

/-- Reads the ranges of a class up to `]`. -/
def readClass (fuel : Nat) (cs : List Char) (acc : List (Char × Char)) : List (Char × Char) × List Char :=
  match fuel, cs with
  | 0, cs => (acc, cs)
  | _, [] => (acc, [])
  | _, ']' :: rest => (acc, rest)
  | fuel + 1, c :: rest =>
    let (c, rest) := match c, rest with
      | '\\', d :: more => (d, more)
      | c, more => (c, more)
    match rest with
    | '-' :: d :: more =>
      if d == ']' then readClass fuel ('-' :: ']' :: more) (acc ++ [(c, c)])
      else
        let (d, more) := match d, more with
          | '\\', e :: after => (e, after)
          | d, after => (d, after)
        readClass fuel more (acc ++ [(c, d)])
    | _ => readClass fuel rest (acc ++ [(c, c)])

/-- Applies the repetitions written after an atom. -/
def repetitions (fuel : Nat) (atom : Pattern) (cs : List Char) : Pattern × List Char :=
  match fuel, cs with
  | 0, cs => (atom, cs)
  | fuel + 1, '?' :: rest => repetitions fuel (.rep atom 0 (some 1)) rest
  | fuel + 1, '*' :: rest => repetitions fuel (.rep atom 0 none) rest
  | fuel + 1, '+' :: rest => repetitions fuel (.rep atom 1 none) rest
  | fuel + 1, '<' :: rest =>
    match readCount rest with
    | some (lo, hi, more) => repetitions fuel (.rep atom lo hi) more
    | none => (atom, '<' :: rest)
  | _, cs => (atom, cs)

mutual

/-- Reads alternatives up to `)` or the end. -/
def readAlternatives (fuel : Nat) (cs : List Char) (acc : List Pattern) : Pattern × List Char :=
  match fuel with
  | 0 => (.alt acc, cs)
  | fuel + 1 =>
    let (branch, rest) := readSequence fuel cs []
    match rest with
    | '|' :: more => readAlternatives fuel more (acc ++ [branch])
    | _ => (match acc with
      | [] => branch
      | _ => .alt (acc ++ [branch]), rest)

/-- Reads a sequence up to `|`, `)` or the end. -/
def readSequence (fuel : Nat) (cs : List Char) (acc : List Pattern) : Pattern × List Char :=
  match fuel with
  | 0 => (.seq acc, cs)
  | fuel + 1 =>
    match cs with
    | [] => (.seq acc, [])
    | '|' :: _ | ')' :: _ => (.seq acc, cs)
    | '(' :: rest =>
      let (body, captured) := match rest with
        | '?' :: ':' :: more => (more, false)
        | more => (more, true)
      let (inner, after) := readAlternatives fuel body []
      let after := match after with
        | ')' :: more => more
        | more => more
      let inner := if captured then .group 0 inner else inner
      let (p, more) := repetitions after.length inner after
      readSequence fuel more (acc ++ [p])
    | '[' :: rest =>
      let (negated, rest) := match rest with
        | '^' :: more => (true, more)
        | more => (false, more)
      let (ranges, after) := readClass rest.length rest []
      let (p, more) := repetitions after.length (.chars ranges negated) after
      readSequence fuel more (acc ++ [p])
    | '\\' :: 'd' :: rest =>
      let (p, more) := repetitions rest.length .digit rest
      readSequence fuel more (acc ++ [p])
    | '\\' :: c :: rest =>
      let (p, more) := repetitions rest.length (literal c) rest
      readSequence fuel more (acc ++ [p])
    | '$' :: rest => readSequence fuel rest (acc ++ [.atEnd])
    | '.' :: rest =>
      let (p, more) := repetitions rest.length anyChar rest
      readSequence fuel more (acc ++ [p])
    | c :: rest =>
      let (p, more) := repetitions rest.length (literal c) rest
      readSequence fuel more (acc ++ [p])

end

/-- Reads a pattern from its text. -/
def ofString (s : String) : Pattern := (numberGroups (readAlternatives (2 * s.length + 2) s.toList []).1 1).1

end Pattern

end VCard
