import VCard.Encoding.Utf8
import VCard.Encoding.QuotedPrintable
/-! Percent-decoding (RFC 3986 §2.1).

The text is taken as UTF-8 bytes; `%` followed by two hex digits becomes the byte
they name, and any other `%` stays as it is. -/
namespace VCard.Encoding

/-- Decodes percent escapes in bytes. -/
def percentDecodeBytes : List UInt8 → List UInt8
  | [] => []
  | 37 :: a :: b :: rest =>
    match hexValue? a, hexValue? b with
    | some x, some y => UInt8.ofNat (x * 16 + y) :: percentDecodeBytes rest
    | _, _ => 37 :: percentDecodeBytes (a :: b :: rest)
  | c :: rest => c :: percentDecodeBytes rest

/-- The bytes that a percent-encoded text denotes. -/
def percentDecode (s : String) : List UInt8 := percentDecodeBytes (encodeUtf8 s)

end VCard.Encoding
