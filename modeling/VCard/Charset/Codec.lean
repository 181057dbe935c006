import VCard.Charset.Lookup
import VCard.Charset.Unicode
import VCard.Charset.Escape
import VCard.Charset.Idna
/-! Decoding bytes and encoding text in a named character set.

`decode` and `encode` look the name up and run its codec. Decoding reads
strictly or leniently (each undecodable run as U+FFFD); encoding is strict. A
name holding a NUL character is refused before any lookup, a name of no codec is
unknown, and a codec from bytes to bytes is no text encoding. A codec's own
failure is reported with the name it was asked by: "decoding with 'name' codec
failed (UnicodeError: ...)". -/
namespace VCard.Charset

/-- Why text could not be turned into bytes or back. -/
inductive Failure where
  /-- The name holds a NUL character. -/
  | embeddedNull
  /-- No codec has the name. -/
  | unknown (name : String)
  /-- The codec turns bytes into bytes; `command` is the function that would run it. -/
  | notText (name command : String)
  /-- Bytes that do not decode. -/
  | undecodable (message : String)
  /-- Characters that do not encode. -/
  | unencodable (message : String)
  /-- Any other failure of the codec. -/
  | failed (message : String)
  deriving Repr

/-- The message of a failure. -/
def Failure.message : Failure → String
  | .embeddedNull => "embedded null character"
  | .unknown n => "unknown encoding: " ++ n
  | .notText n cmd => "'" ++ n ++ "' is not a text encoding; use " ++ cmd ++ " to handle arbitrary codecs"
  | .undecodable m => m
  | .unencodable m => m
  | .failed m => m

/-- Pieces read strictly or leniently. -/
def readPieces (lenient : Bool) (codec : String) (bs : List UInt8) (ps : List Piece) :
    Except DecodeError String :=
  if lenient then .ok (Piece.lenient ps)
  else match Piece.strict codec bs ps with
    | .ok s => .ok s
    | .error f => .error (.undecodable f)

/-- Decodes bytes by a scheme. -/
def Scheme.decode (s : Scheme) (lenient : Bool) (bs : List UInt8) : Except DecodeError String :=
  match s with
  | .utf8 => readPieces lenient "utf-8" bs (utf8Pieces bs)
  | .utf8Signed =>
    let body := if bs.take 3 == utf8Mark then bs.drop 3 else bs
    readPieces lenient "utf-8" body (utf8Pieces body)
  | .utf16 o => let (name, ps) := unicodePieces 2 o bs; readPieces lenient name bs ps
  | .utf32 o => let (name, ps) := unicodePieces 4 o bs; readPieces lenient name bs ps
  | .utf7 => readPieces lenient "utf7" bs (utf7Pieces bs)
  | .ascii => readPieces lenient "ascii" bs (asciiPieces 0 bs)
  | .latin1 => .ok (String.ofList (bs.map fun b => Char.ofNat b.toNat))
  | .singleByte t => readPieces lenient "charmap" bs (singleBytePieces t.toList.toArray 0 bs)
  | .doubleByte d => readPieces lenient d.name bs (d.pieces bs)
  | .unicodeEscape => readPieces lenient "unicodeescape" bs (escapePieces bs)
  | .rawUnicodeEscape => readPieces lenient "rawunicodeescape" bs (rawEscapePieces bs)
  | .punycode => punycodeDecode lenient bs
  | .idna => idnaDecode lenient bs
  | .undefined => .error (.codec (.plain "undefined encoding"))
  | .binary => .error (.codec (.plain "not a text encoding"))

/-- Encodes text by a scheme. -/
def Scheme.encode (s : Scheme) (text : List Char) : Except EncodeError (List UInt8) :=
  let byMap (codec reason : String) (bound : Nat) : Except EncodeError (List UInt8) :=
    match encodeEach codec reason (fun c => if c.toNat < bound then some [UInt8.ofNat c.toNat] else none) text with
    | .ok bs => .ok bs
    | .error f => .error (.unencodable f)
  match s with
  | .utf8 => .ok (text.flatMap Encoding.encodeUtf8Char)
  | .utf8Signed => .ok (utf8Mark ++ text.flatMap Encoding.encodeUtf8Char)
  | .utf16 o => .ok (unicodeEncode 2 o text)
  | .utf32 o => .ok (unicodeEncode 4 o text)
  | .utf7 => .ok (utf7Encode text)
  | .ascii => byMap "ascii" "ordinal not in range(128)" 128
  | .latin1 => byMap "latin-1" "ordinal not in range(256)" 256
  | .singleByte t =>
    match singleByteEncode t.toList.toArray text with
    | .ok bs => .ok bs
    | .error f => .error (.unencodable f)
  | .doubleByte d =>
    match d.encode text with
    | .ok bs => .ok bs
    | .error f => .error (.unencodable f)
  | .unicodeEscape => .ok (escapeEncode text)
  | .rawUnicodeEscape => .ok (rawEscapeEncode text)
  | .punycode => .ok (punycodeEncode text)
  | .idna =>
    match idnaEncode text with
    | .ok bs => .ok bs
    | .error e => .error (.codec e)
  | .undefined => .error (.codec (.plain "undefined encoding"))
  | .binary => .error (.codec (.plain "not a text encoding"))

/-- The failure of a codec error, for a codec asked by `name` to do `what`. -/
def CodecError.failure (what name : String) : CodecError → Failure
  | .plain m => .failed (what ++ " with '" ++ name ++ "' codec failed (UnicodeError: " ++ m ++ ")")
  | .bare t => .failed t

/-- The codec of a name for text, or why there is none. -/
def textCodec (name command : String) : Except Failure Codec :=
  if name.contains (Char.ofNat 0) then .error .embeddedNull
  else match Codec.lookup? name with
    | none => .error (.unknown name)
    | some c =>
      match c.scheme with
      | .binary => .error (.notText name command)
      | _ => .ok c

/-- Decodes bytes in the named character set, strictly or leniently. No bytes
are the empty text whatever the name, as long as it holds no NUL. -/
def decode (name : String) (lenient : Bool) (bs : List UInt8) : Except Failure String :=
  if bs.isEmpty && !name.contains (Char.ofNat 0) then .ok ""
  else match textCodec name "codecs.decode()" with
    | .error f => .error f
    | .ok c =>
      match c.scheme.decode lenient bs with
      | .ok s => .ok s
      | .error (.undecodable f) => .error (.undecodable f.message)
      | .error (.codec e) => .error (e.failure "decoding" name)

/-- Encodes text in the named character set. -/
def encode (name : String) (text : String) : Except Failure (List UInt8) :=
  match textCodec name "codecs.encode()" with
  | .error f => .error f
  | .ok c =>
    match c.scheme.encode text.toList with
    | .ok bs => .ok bs
    | .error (.unencodable f) => .error (.unencodable f.message)
    | .error (.codec e) => .error (e.failure "encoding" name)

theorem encode_utf8 (text : String) :
    (Scheme.utf8).encode text.toList = .ok (text.toList.flatMap Encoding.encodeUtf8Char) := rfl

end VCard.Charset
