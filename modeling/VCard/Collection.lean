import VCard.Vcf.Read
import VCard.Vcf.Write
/-! Collections of vCard files.

A directory of cards holds files ending in `.vcf` (in any case); they are read
in the order of their names, and each card is labelled with the name of its
file without the ending. Text is read with its line ends as written by any
system (CR LF and CR become LF).

Exporting writes cards sorted by their formatted name (cards without one first,
the sort keeping the order of equal names) in a version named by its text. -/
namespace VCard

namespace Collection

/-- The ending of a file name: from its last dot, unless the dot starts or ends
the name. -/
def suffix (name : String) : String :=
  let cs := name.toList
  match (cs.reverse.findIdx? (· == '.')) with
  | some j =>
    let i := cs.length - 1 - j
    if 0 < i && i < cs.length - 1 then String.ofList (cs.drop i) else ""
  | none => ""

/-- A file name without its ending. -/
def stem (name : String) : String :=
  String.ofList (name.toList.take (name.length - (suffix name).length))

/-- Whether a file holds cards, by its ending. -/
def isCardFile (name : String) : Bool := Text.lower (suffix name) == ".vcf"

/-- The card files among file names, sorted, each once. -/
def sources (names : List String) : List String :=
  (names.filter isCardFile).eraseDups.mergeSort (fun a b => decide (a ≤ b))

/-- Reads the cards of the card files among named texts (a later text of a
name replaces an earlier one): the files read, and each card with its label. -/
def readFiles (index : CodecIndex) (settings : Settings) (files : List (String × String)) :
    Vcf.ReadM (List String × List (String × Card)) := do
  let names := sources (files.map (·.1))
  let mut cards : List (String × Card) := []
  for name in names do
    let text := ((files.reverse.find? (·.1 == name)).map (·.2)).getD ""
    let read ← Vcf.read index settings (String.ofList (Text.universalLineEnds text.toList))
    cards := cards ++ read.map (stem name, ·)
  return (names, cards)

/-- Cards in order of their formatted names. -/
def sortByName (cards : List Card) : List Card :=
  cards.mergeSort fun a b => decide ((a.formattedName.getD "") ≤ (b.formattedName.getD ""))

/-- Writes cards sorted by name in the version a text names: how many, and the
text. -/
def writeSorted (cards : List Card) (target : String) (settings : Settings := {}) :
    Except Error (Nat × String) := do
  let version ← match Version.find? target with
    | some v => pure v
    | none => throw (.unknownVersion (Text.quote target))
  let sorted := sortByName cards
  let (text, _) ← Vcf.write { version, settings } sorted
  return (sorted.length, text)

end Collection

end VCard
