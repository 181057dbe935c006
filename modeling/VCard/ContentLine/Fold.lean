import VCard.Encoding.Utf8
/-! Writing content lines: folding and quoting of parameter values.

A line shorter than the line length (counted in characters) is written as it
is. A longer one is cut wherever the next character's UTF-8 bytes would make the
current line longer than the line length in bytes; each cut writes CR LF and a
space, and the space counts toward the next line. Every line ends in CR LF.

A parameter value holding `,`, `;` or `:` is written between double quotes;
values never hold double quotes themselves, as those are escaped or replaced
before. -/
namespace VCard.ContentLine

/-- The folded form of the characters of a line, given the bytes on the
current line so far. -/
def foldChars (width : Int) : List Char → Int → List Char
  | [], _ => []
  | c :: rest, counter =>
    let size : Int := Encoding.utf8Size c
    if counter + size > width then '\r' :: '\n' :: ' ' :: c :: foldChars width rest (1 + size)
    else c :: foldChars width rest (counter + size)

/-- A line written with folding at `width`, ending in CR LF. -/
def foldLine (width : Int) (line : String) : String :=
  if (line.length : Int) < width then line ++ "\r\n"
  else String.ofList (foldChars width line.toList 0) ++ "\r\n"

/-- A parameter value, quoted when it holds `,`, `;` or `:`. -/
def quoteParamValue (v : String) : String :=
  if v.toList.any (fun c => c == ',' || c == ';' || c == ':') then "\"" ++ v ++ "\"" else v

theorem foldLine_short (width : Int) (line : String) (h : (line.length : Int) < width) :
    foldLine width line = line ++ "\r\n" := by
  simp [foldLine, h]

end VCard.ContentLine
