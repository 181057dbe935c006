/-! Caret escapes in parameter values (RFC 6868).

A parameter value cannot hold a double quote or a line break. With caret
escapes, `^` is written `^^`, a line break (CR LF, LF or CR) `^n` and a double
quote `^'`; reading also takes `^N` for a line break and keeps a caret before any
other character. Without them, a value is made safe by turning double quotes into
single quotes and line breaks into blanks. -/
namespace VCard.ContentLine

def caretDecodeChars : List Char → List Char
  | [] => []
  | '^' :: 'n' :: r => '\n' :: caretDecodeChars r
  | '^' :: 'N' :: r => '\n' :: caretDecodeChars r
  | '^' :: '^' :: r => '^' :: caretDecodeChars r
  | '^' :: '\'' :: r => '"' :: caretDecodeChars r
  | c :: r => c :: caretDecodeChars r

def caretDecode (s : String) : String := String.ofList (caretDecodeChars s.toList)

def caretEncodeChars : List Char → List Char
  | [] => []
  | '^' :: r => '^' :: '^' :: caretEncodeChars r
  | '\r' :: '\n' :: r => '^' :: 'n' :: caretEncodeChars r
  | '\n' :: r => '^' :: 'n' :: caretEncodeChars r
  | '\r' :: r => '^' :: 'n' :: caretEncodeChars r
  | '"' :: r => '^' :: '\'' :: caretEncodeChars r
  | c :: r => c :: caretEncodeChars r

def caretEncode (s : String) : String := String.ofList (caretEncodeChars s.toList)

/-- Without caret escapes: double quotes become single quotes and line breaks blanks. -/
def sanitizeChars : List Char → List Char
  | [] => []
  | '"' :: r => '\'' :: sanitizeChars r
  | '\r' :: '\n' :: r => ' ' :: sanitizeChars r
  | '\n' :: r => ' ' :: sanitizeChars r
  | '\r' :: r => ' ' :: sanitizeChars r
  | c :: r => c :: sanitizeChars r

def sanitize (s : String) : String := String.ofList (sanitizeChars s.toList)

end VCard.ContentLine
