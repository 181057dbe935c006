import VCard.Xml.Char
/-! The XML declaration `<?xml version="1.0" encoding="..." standalone="..."?>`.

Its text is a run of pseudo-attributes in a fixed order: `version`, then
optionally `encoding` (a name starting with a letter) and `standalone` (`yes`
or `no`). Names are ASCII, values hold letters, digits, `.`, `-` and `_`, and
each pseudo-attribute follows at least one blank. A declaration that breaks
these rules is faulted at the first character that does. The encoding it names
is not used: the text of a document is already characters. -/
namespace VCard.Xml

/-- A pseudo-attribute of the XML declaration: its name, value, where each
starts, and the text after its closing quote. -/
structure Pseudo where
  name : String
  namePos : Nat
  value : String
  valuePos : Nat
  rest : List Char
  restPos : Nat

/-- Reads one pseudo-attribute `name = 'value'` after at least one blank: none
at the end of the declaration, or the offset of the first fault. -/
def pseudoAttribute (cs : List Char) (pos : Nat) : Except Nat (Option Pseudo) :=
  match cs with
  | [] => .ok none
  | c :: _ =>
    if !isSpace c then .error pos
    else
      let blanks := (cs.takeWhile isSpace).length
      let cs1 := cs.drop blanks
      let p1 := pos + blanks
      if cs1.isEmpty then .ok none
      else
        let name := cs1.takeWhile fun d => d != '=' && !isSpace d && d.toNat < 128
        let cs2 := cs1.drop name.length
        let p2 := p1 + name.length
        match cs2 with
        | [] => .error p2
        | d :: _ =>
          if d.toNat ≥ 128 then .error p2
          else
            let gap := (cs2.takeWhile isSpace).length
            let p3 := p2 + gap
            match cs2.drop gap with
            | '=' :: r =>
              if name.isEmpty then .error p3
              else
                let gap2 := (r.takeWhile isSpace).length
                let p4 := p3 + 1 + gap2
                match r.drop gap2 with
                | q :: r2 =>
                  if q != '"' && q != '\'' then .error p4
                  else
                    let ok (e : Char) : Bool :=
                      e != q && (('a' ≤ e && e ≤ 'z') || ('A' ≤ e && e ≤ 'Z') || ('0' ≤ e && e ≤ '9') ||
                        e == '.' || e == '-' || e == '_')
                    let value := r2.takeWhile ok
                    let pv := p4 + 1 + value.length
                    match r2.drop value.length with
                    | e :: r3 =>
                      if e == q then
                        .ok (some ⟨String.ofList name, p1, String.ofList value, p4 + 1, r3, pv + 1⟩)
                      else .error pv
                    | [] => .error pv
                | [] => .error p4
            | _ => .error p3

/-- Checks an XML declaration whose text between `<?xml` and `?>` starts at
`pos`: the offset of its first fault, or whether it declares the document
standalone. -/
def checkDeclaration (body : List Char) (pos : Nat) : Except Nat Bool :=
  let isLetter (c : Char) : Bool := ('a' ≤ c && c ≤ 'z') || ('A' ≤ c && c ≤ 'Z')
  let standalone (a : Pseudo) : Except Nat Bool :=
    if a.name != "standalone" then .error a.namePos
    else if a.value != "yes" && a.value != "no" then .error a.valuePos
    else
      let gap := (a.rest.takeWhile isSpace).length
      if (a.rest.drop gap).isEmpty then .ok (a.value == "yes") else .error (a.restPos + gap)
  let encoding (a : Pseudo) : Except Nat Bool :=
    if a.name == "encoding" then
      if !(a.value.toList.head?.map isLetter).getD false then .error a.valuePos
      else match pseudoAttribute a.rest a.restPos with
        | .error p => .error p
        | .ok none => .ok false
        | .ok (some b) => standalone b
    else standalone a
  match pseudoAttribute body pos with
  | .error p => .error p
  | .ok none => .error pos
  | .ok (some a) =>
    if a.name != "version" then .error a.namePos
    else match pseudoAttribute a.rest a.restPos with
      | .error p => .error p
      | .ok none => .ok false
      | .ok (some b) => encoding b

end VCard.Xml
