import VCard.Text.Blank
import VCard.Text.Case
/-! Logical lines of a vCard stream (RFC 6350 §3.2, RFC 2425 §5.8.1).

A stream is split into physical lines at each line feed, and carriage returns
and line feeds at the end of a line are dropped; a carriage return elsewhere is
kept. Physical lines are then joined into logical lines:

* a blank line (nothing but white space) ends the current logical line and is
  dropped;
* a line that starts with a space or a tab continues the current logical line,
  without that first character;
* when the current logical line ends in `=` and mentions `quoted-printable` (in
  any case), the next line continues it after a line feed, whatever it starts
  with (vCard 2.1 soft line breaks);
* any other line starts a new logical line.

Each logical line carries the number of its first physical line (counting from
1), except that the first logical line of the stream is numbered 0 and one that
follows blank lines takes the number of the last blank line. -/
namespace VCard.ContentLine

/-- A logical line and the line number it is reported under. -/
structure LogicalLine where
  text : String
  number : Nat
  deriving Repr, DecidableEq

/-- The physical lines of a stream: split at line feeds, with carriage returns
and line feeds at their ends dropped. A final line feed ends the last line. -/
def physicalLines (s : String) : List (List Char) :=
  let pieces := s.toList.splitOn '\n'
  let pieces := if s.toList.getLast? == some '\n' || s.isEmpty then pieces.dropLast else pieces
  pieces.map fun p => (p.reverse.dropWhile (fun c => c == '\r' || c == '\n')).reverse

/-- Whether a line is blank: white space only. -/
def isBlankLine (cs : List Char) : Bool := cs.all Text.isBlank

/-- Whether `needle` occurs in `cs` as a contiguous run. -/
def hasRun (needle : List Char) : List Char → Bool
  | [] => needle.isEmpty
  | c :: r => needle.isPrefixOf (c :: r) || hasRun needle r

/-- Whether a logical line asks for a quoted-printable continuation. -/
def wantsContinuation (buf : List Char) : Bool :=
  buf.getLast? == some '=' && hasRun "quoted-printable".toList (Text.lowerChars buf)

/-- The state of joining physical lines: the logical line so far, its number,
whether a quoted-printable continuation is due, and the lines finished. -/
structure Joiner where
  buffer : List Char := []
  start : Nat := 0
  continuation : Bool := false
  finished : List LogicalLine := []

namespace Joiner

/-- Finishes the current logical line, if there is one. -/
def flush (j : Joiner) : Joiner :=
  if j.buffer.isEmpty then j
  else { j with finished := j.finished ++ [⟨String.ofList j.buffer, j.start⟩] }

/-- Takes physical line `number` into account. -/
def feed (j : Joiner) (number : Nat) (line : List Char) : Joiner :=
  if isBlankLine line then
    { j.flush with buffer := [], start := number, continuation := false }
  else
    let j :=
      if j.continuation then { j with buffer := j.buffer ++ '\n' :: line, continuation := false }
      else match line with
        | c :: rest =>
          if c == ' ' || c == '\t' then { j with buffer := j.buffer ++ rest }
          else if !j.buffer.isEmpty then { j.flush with buffer := line, start := number }
          else { j with buffer := line }
        | [] => j
    { j with continuation := wantsContinuation j.buffer }

end Joiner

/-- The logical lines of a stream, in order. -/
def logicalLines (s : String) : List LogicalLine :=
  let lines := physicalLines s
  let j := (lines.zip (List.range' 1 lines.length)).foldl (fun j (l, n) => j.feed n l) ({} : Joiner)
  j.flush.finished

end VCard.ContentLine
