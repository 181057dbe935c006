import VCard.Error
import VCard.Encoding.Base64
import VCard.Encoding.Percent
import VCard.Text.Case
import VCard.Text.Blank
/-! `data:` URIs (RFC 2397) for inline binary data.

A data URI is `data:`, an optional media type with parameters, an optional
`;base64`, a comma and the payload. The media type keeps only what stands before
its first `;`. The payload is base64 when marked so, read leniently, and
percent-encoded text otherwise. Written, a data URI always uses base64 and names
`application/octet-stream` when it has no media type. -/
namespace VCard

/-- Inline data with its media type. -/
structure DataUri where
  mediaType : Option String
  data : List UInt8

namespace DataUri

def defaultMediaType : String := "application/octet-stream"

def text (d : DataUri) : String :=
  "data:" ++ d.mediaType.getD defaultMediaType ++ ";base64," ++ Encoding.encodeBase64 d.data

/-- Whether a header, before the first comma, ends in `;base64` in any case. -/
def splitBase64 (header : List Char) : List Char × Bool :=
  let n := header.length
  if n ≥ 7 && Text.lowerChars (header.drop (n - 7)) == ";base64".toList then (header.take (n - 7), true)
  else (header, false)

/-- Reads a data URI. -/
def parse (text : String) : Except Error DataUri :=
  let t := Text.trimChars text.toList
  if Text.lowerChars (t.take 5) != "data:".toList then .error .notDataUri
  else
    let body : List Char := t.drop 5
    match body.findIdx? (· == ',') with
    | none => .error .notDataUri
    | some i =>
      let (header, isBase64) := splitBase64 (body.take i)
      let payload := String.ofList (body.drop (i + 1))
      let mediaType :=
        if header.isEmpty then none
        else
          let first := header.takeWhile (· != ';')
          if first.isEmpty then none else some (String.ofList first)
      if isBase64 then
        match Encoding.decodeBase64 payload with
        | .ok data => .ok ⟨mediaType, data⟩
        | .error e => .error (.dataPayload e.message)
      else .ok ⟨mediaType, Encoding.percentDecode payload⟩

end DataUri

end VCard
