import VCard.Charset.Punycode
import VCard.Charset.Nameprep
/-! Internationalized domain names (RFC 3490) as a codec.

A name is a run of labels between dots (`.`, and in Unicode text also the
ideographic and full-width dots). An ASCII name encodes as itself, provided no
label but the last is empty or longer than 63 bytes and the last is shorter
than 64. Otherwise each label is prepared (`nameprep`) and, when it is not ASCII
then, written as `xn--` and its Punycode; each label must come out between 1 and
63 bytes long.

Decoding reads bytes without `xn--` anywhere that are ASCII as themselves;
otherwise every label that starts with `xn--` is Punycode, which must encode back
to the same label (in any case), and every other label must be ASCII. The codec
only reads strictly: asked to replace what it cannot read, it refuses. -/
namespace VCard.Charset

/-- The ACE prefix `xn--`. -/
def acePrefix : List Char := "xn--".toList

/-- Whether every character is ASCII. -/
def isAsciiText (cs : List Char) : Bool := cs.all (·.toNat < 128)

/-- The bytes of ASCII characters. -/
def charBytes (cs : List Char) : List UInt8 := cs.map fun c => UInt8.ofNat c.toNat

/-- Splits a list at every element a predicate holds for. -/
def splitWhere {α : Type} (p : α → Bool) (xs : List α) : List (List α) :=
  let (cur, done) := xs.foldl (fun ((cur, done) : List α × List (List α)) x =>
    if p x then ([], done ++ [cur]) else (cur ++ [x], done)) ([], [])
  done ++ [cur]

/-- Whether a character is one of the dots that separate labels. -/
def isLabelDot (c : Char) : Bool :=
  c == '.' || c.toNat == 0x3002 || c.toNat == 0xFF0E || c.toNat == 0xFF61

/-- The length check of an encoded label. -/
def checkLabel (bytes : List UInt8) : Except CodecError (List UInt8) :=
  if 0 < bytes.length && bytes.length < 64 then .ok bytes else .error (.plain "label empty or too long")

/-- Encodes one label. -/
def labelToAscii (label : List Char) : Except CodecError (List UInt8) :=
  if isAsciiText label then checkLabel (charBytes label)
  else match nameprep label with
    | .error m => .error (.plain m)
    | .ok prepared =>
      if isAsciiText prepared then checkLabel (charBytes prepared)
      else if acePrefix.isPrefixOf prepared then .error (.plain "Label starts with ACE prefix")
      else checkLabel (charBytes acePrefix ++ punycodeEncode prepared)

/-- Encodes a domain name. -/
def idnaEncode (text : List Char) : Except CodecError (List UInt8) :=
  if text.isEmpty then .ok []
  else if isAsciiText text then
    let labels := splitWhere (· == '.') text
    if (labels.dropLast.any fun l => !(0 < l.length && l.length < 64)) then .error (.plain "label empty or too long")
    else if (labels.getLast?.map (fun (l : List Char) => decide (l.length ≥ 64))).getD false then
      .error (.plain "label too long")
    else .ok (charBytes text)
  else
    let labels := splitWhere isLabelDot text
    let (labels, trailing) :=
      if (labels.getLast?.map (fun (l : List Char) => l.isEmpty)).getD false then (labels.dropLast, [46])
      else (labels, [])
    let encoded := labels.mapM labelToAscii
    match encoded with
    | .error e => .error e
    | .ok parts => .ok ((List.intersperse [46] parts).flatten ++ trailing)

/-- The literal of ASCII bytes. -/
def bytesLiteral (bs : List UInt8) : String :=
  "b" ++ Text.quote (String.ofList (bs.map fun b => Char.ofNat b.toNat))

/-- Decodes one label. -/
def labelToUnicode (label : List UInt8) : Except DecodeError (List Char) :=
  let ace := charBytes acePrefix
  if !ace.isPrefixOf label then
    match Piece.strict "ascii" label (asciiPieces 0 label) with
    | .ok s => .ok s.toList
    | .error f => .error (.undecodable f)
  else
    match punycodeDecode false (label.drop 4) with
    | .error (.undecodable f) => .error (.undecodable f)
    | .error (.codec (.plain m)) =>
      .error (.codec (.plain ("decoding with 'punycode' codec failed (UnicodeError: " ++ m ++ ")")))
    | .error (.codec (.bare t)) => .error (.codec (.bare t))
    | .ok result =>
      match labelToAscii result.toList with
      | .error e => .error (.codec e)
      | .ok back =>
        let lowered := label.map fun b => if 65 ≤ b.toNat && b.toNat ≤ 90 then b + 32 else b
        if lowered != back then
          .error (.codec (.bare ("('IDNA does not round-trip', " ++ bytesLiteral label ++ ", " ++
            bytesLiteral back ++ ")")))
        else .ok result.toList

/-- Whether `needle` occurs in `hay`. -/
def occursIn (needle hay : List UInt8) : Bool :=
  (List.range (hay.length + 1)).any fun i => needle.isPrefixOf (hay.drop i)

/-- Decodes a domain name; `lenient` reading is refused. -/
def idnaDecode (lenient : Bool) (bs : List UInt8) : Except DecodeError String :=
  if lenient then .error (.codec (.plain "Unsupported error handling replace"))
  else if bs.isEmpty then .ok ""
  else if !occursIn (charBytes acePrefix) bs && bs.all (·.toNat < 128) then
    .ok (String.ofList (bs.map fun b => Char.ofNat b.toNat))
  else
    let labels := splitWhere (· == 46) bs
    let (labels, trailing) :=
      if (labels.getLast?.map (fun (l : List UInt8) => l.isEmpty)).getD false then (labels.dropLast, ".")
      else (labels, "")
    match labels.mapM labelToUnicode with
    | .error e => .error e
    | .ok parts => .ok (String.ofList (List.intersperse ['.'] parts).flatten ++ trailing)

theorem splitWhere_nil {α : Type} (p : α → Bool) : splitWhere p [] = [[]] := rfl

end VCard.Charset
