import VCard.Encoding.QuotedPrintable
import VCard.Charset.Codec
import VCard.Error
/-! Text carried as quoted-printable bytes of a character set (vCard 2.1).

Writing first makes every line break a CR LF, encodes the text in the character
set, and writes the bytes quoted-printable with soft breaks that end in CR LF.
Reading decodes the quoted-printable bytes, decodes them in the character set,
and turns CR LF back into LF. -/
namespace VCard.Encoding

/-- Makes every line break (CR LF, LF or a lone CR before LF) a CR LF; a CR that
ends no line stays as it is. -/
def crlfLines : List Char → List Char
  | [] => []
  | '\r' :: '\n' :: r => '\r' :: '\n' :: crlfLines r
  | '\n' :: r => '\r' :: '\n' :: crlfLines r
  | c :: r => c :: crlfLines r

/-- Turns every CR LF into LF. -/
def lfLines : List Char → List Char
  | [] => []
  | '\r' :: '\n' :: r => '\n' :: lfLines r
  | c :: r => c :: lfLines r

/-- Ends every soft break in CR LF. -/
def crlfSoftBreaks : List Char → List Char
  | [] => []
  | '=' :: '\n' :: r => '=' :: '\r' :: '\n' :: crlfSoftBreaks r
  | c :: r => c :: crlfSoftBreaks r

/-- The library failure of a character set failure. -/
def charsetError : Charset.Failure → Error
  | .embeddedNull => .embeddedNull
  | .unknown n => .unknownCharset n
  | .notText n cmd => .notTextEncoding n cmd
  | .undecodable m => .undecodable m
  | .unencodable m => .unencodable m
  | .failed m => .codecFailed m

/-- Text as quoted-printable bytes of the named character set. -/
def quotedPrintableText (value charset : String) : Except Error String :=
  match Charset.encode charset (String.ofList (crlfLines value.toList)) with
  | .ok bytes => .ok (String.ofList (crlfSoftBreaks (encodeQuotedPrintable bytes).toList))
  | .error f => .error (charsetError f)

/-- How decoding quoted-printable text went. -/
inductive Decoded where
  /-- Every byte decoded. -/
  | clean (text : String)
  /-- The character set is not known; the bytes were read as UTF-8. -/
  | unknownCharset (text : String)
  /-- Some bytes were not valid in the character set and were replaced. -/
  | replaced (text : String)

/-- Decodes quoted-printable text in the named character set, CR LF turned into
LF. A character set that is not known, or is no text encoding, reads the bytes
as UTF-8; bytes the set cannot read are read again leniently; any other failure
of the set is the failure of the whole. -/
def decodeQuotedPrintableText (value : String) (charset : String) : Except Error Decoded :=
  let bytes := decodeQuotedPrintable (encodeUtf8 value)
  let fix (s : String) := String.ofList (lfLines s.toList)
  match Charset.decode charset false bytes with
  | .ok t => .ok (.clean (fix t))
  | .error (.unknown _) | .error (.notText _ _) => .ok (.unknownCharset (fix (decodeUtf8 bytes)))
  | .error (.undecodable _) =>
    match Charset.decode charset true bytes with
    | .ok t => .ok (.replaced (fix t))
    | .error f => .error (charsetError f)
  | .error f => .error (charsetError f)

theorem crlfLines_plain (cs : List Char) (h : ∀ c ∈ cs, c ≠ '\r' ∧ c ≠ '\n') :
    crlfLines cs = cs := by
  induction cs with
  | nil => rfl
  | cons c r ih =>
    have hc := h c (by simp)
    have ih := ih (fun d hd => h d (List.mem_cons_of_mem _ hd))
    unfold crlfLines
    split <;> simp_all

end VCard.Encoding
