import VCard.Text.Literal
/-! What decoding and encoding yield, piece by piece, and how their failures read.

A decoder turns bytes into a list of *pieces*: characters, and runs of bytes
(`start..stop`, offsets into the input) that do not decode, each with the
reason. Read strictly, the first bad run is a failure; read leniently, each bad
run stands for one replacement character U+FFFD (`Piece.lenient`). An encoder
stops at the first run of characters it cannot encode.

Messages name the codec as it names itself, the offending byte (in hex) or
character (escaped), and its position; a run longer than one names its first and
last position. -/
namespace VCard.Charset

/-- A failure of a codec that is not about particular bytes or characters. -/
inductive CodecError where
  /-- A Unicode error with a message, which the caller wraps with the codec's name. -/
  | plain (message : String)
  /-- A Unicode error shown as it stands. -/
  | bare (text : String)
  deriving Repr

/-- The replacement character for what does not decode. -/
def replacementChar : Char := Char.ofNat 0xFFFD

/-- A piece of decoded text: a character, or bytes `start..stop` that do not decode. -/
inductive Piece where
  | char (c : Char)
  | bad (start stop : Nat) (reason : String)
  deriving Repr

/-- Bytes that do not decode, as a failure names them. -/
structure DecodeFault where
  codec : String
  bytes : List UInt8
  start : Nat
  stop : Nat
  reason : String

/-- Two lower-case hex digits. -/
def hexByte (n : Nat) : String := String.ofList (Text.hexPadded 2 n)

/-- Why decoding failed. -/
inductive DecodeError where
  | undecodable (f : DecodeFault)
  | codec (e : CodecError)

/-- The message of bytes that do not decode. -/
def DecodeFault.message (f : DecodeFault) : String :=
  let what :=
    if f.stop == f.start + 1 then
      match f.bytes[f.start]? with
      | some b => "byte 0x" ++ hexByte b.toNat ++ " in position " ++ toString f.start
      | none => "bytes in position " ++ toString f.start ++ "-" ++ toString f.start
    else "bytes in position " ++ toString f.start ++ "-" ++ toString (f.stop - 1)
  "'" ++ f.codec ++ "' codec can't decode " ++ what ++ ": " ++ f.reason

/-- Characters that do not encode, as a failure names them. -/
structure EncodeFault where
  codec : String
  text : List Char
  start : Nat
  stop : Nat
  reason : String

/-- Why encoding failed. -/
inductive EncodeError where
  | unencodable (f : EncodeFault)
  | codec (e : CodecError)

/-- The message of characters that do not encode. -/
def EncodeFault.message (f : EncodeFault) : String :=
  let what :=
    if f.stop == f.start + 1 then
      match f.text[f.start]? with
      | some c => "character '" ++ String.ofList (Text.codeEscape c) ++ "' in position " ++ toString f.start
      | none => "character in position " ++ toString f.start
    else "characters in position " ++ toString f.start ++ "-" ++ toString (f.stop - 1)
  "'" ++ f.codec ++ "' codec can't encode " ++ what ++ ": " ++ f.reason

/-- The text of pieces read leniently: each bad run is one U+FFFD. -/
def Piece.lenient : List Piece → String
  | ps => String.ofList (ps.map fun
    | .char c => c
    | .bad .. => replacementChar)

/-- The first bad run among pieces, if any. -/
def Piece.firstBad? : List Piece → Option (Nat × Nat × String)
  | [] => none
  | .char _ :: rest => firstBad? rest
  | .bad start stop reason :: _ => some (start, stop, reason)

/-- Pieces read strictly: the text, or the first run that does not decode. -/
def Piece.strict (codec : String) (bytes : List UInt8) (ps : List Piece) : Except DecodeFault String :=
  match Piece.firstBad? ps with
  | none => .ok (Piece.lenient ps)
  | some (start, stop, reason) => .error ⟨codec, bytes, start, stop, reason⟩

/-- Decodes ASCII from offset `pos`: each byte above 127 is bad by itself. -/
def asciiPieces (pos : Nat) : List UInt8 → List Piece
  | [] => []
  | b :: rest =>
    (if b.toNat < 128 then Piece.char (Char.ofNat b.toNat)
     else Piece.bad pos (pos + 1) "ordinal not in range(128)") :: asciiPieces (pos + 1) rest

/-- Encoding by a partial map of characters: the bytes, or the first run of
characters the map lacks. -/
def encodeEach (codec reason : String) (f : Char → Option (List UInt8)) (text : List Char) :
    Except EncodeFault (List UInt8) :=
  match text.findIdx? (fun c => (f c).isNone) with
  | none => .ok (text.flatMap fun c => (f c).getD [])
  | some i =>
    let run := ((text.drop i).takeWhile (fun c => (f c).isNone)).length
    .error ⟨codec, text, i, i + run, reason⟩

theorem lenient_chars (cs : List Char) : Piece.lenient (cs.map Piece.char) = String.ofList cs := by
  simp [Piece.lenient, List.map_map, Function.comp_def]

/-! ### Writing tables -/

/-- The `count` characters from code point `start` on, in order: a run of a table
of characters, written by its first code point and its length. -/
def codeRun (start count : Nat) : String :=
  String.ofList ((List.range count).map fun i => Char.ofNat (start + i))

/-- One character, by its code point, `count` times over. -/
def codeFill (code count : Nat) : String := String.ofList (List.replicate count (Char.ofNat code))

end VCard.Charset
