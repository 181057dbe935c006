import VCard.Charset.DoubleByte
/-! Character set names and the codecs they stand for.

A character set is named in many spellings: `UTF-8`, ` utf8`, `-latin-1`,
`ISO_8859-15`. A name is first put in canonical form (`canonicalName`): ASCII
letters are lowered, ASCII letters, digits and dots are kept, and every run of
other characters between two kept ones becomes a single underscore (a run at
either end is dropped). The canonical name is then looked up among the alias
names of the codecs (`aliases`), with dots also read as underscores, and the
codec is the one the alias names, or else the one of the canonical name itself
(`codecModules`). Names of no codec have no codec; two of the codec names
(`mbcs`, `oem`) only exist on another system, and `aliases` is the table itself,
not a codec.

Seven codecs turn bytes into bytes (`base64_codec`, `rot_13`, ...); they have a
name but are no text encoding (`Scheme.binary`). -/
namespace VCard.Charset

/-- The order of the bytes of a code unit. -/
inductive ByteOrder where
  | little
  | big
  deriving DecidableEq, Repr

/-- How a codec turns text into bytes and back. -/
inductive Scheme where
  /-- UTF-8. -/
  | utf8
  /-- UTF-8 after a byte order mark, which decoding skips and encoding writes. -/
  | utf8Signed
  /-- UTF-16 in a fixed order, or (none) after a byte order mark. -/
  | utf16 (order : Option ByteOrder)
  /-- UTF-32 in a fixed order, or (none) after a byte order mark. -/
  | utf32 (order : Option ByteOrder)
  /-- UTF-7: ASCII with base64 runs of UTF-16. -/
  | utf7
  /-- ASCII, the bytes below 128. -/
  | ascii
  /-- Latin-1, each byte its own code point. -/
  | latin1
  /-- A set of at most 256 characters, given by the character of each byte
  (U+FFFE where the byte has none). -/
  | singleByte (table : String)
  /-- A double-byte set of East Asia. -/
  | doubleByte (d : DoubleByte)
  /-- Escapes of the text of a string literal: `\\n`, `\\xhh`, `\\uhhhh`, octal. -/
  | unicodeEscape
  /-- Latin-1 with `\\uhhhh` and `\\Uhhhhhhhh` escapes only. -/
  | rawUnicodeEscape
  /-- Punycode (RFC 3492). -/
  | punycode
  /-- Internationalized domain names (RFC 3490). -/
  | idna
  /-- The codec that refuses every text and every byte. -/
  | undefined
  /-- A codec from bytes to bytes, which is no text encoding. -/
  | binary

/-- A codec: the name of its definition and its scheme. -/
structure Codec where
  module : String
  scheme : Scheme

/-- A name in canonical form: lower-case ASCII letters, digits and dots, and an
underscore for each run of other characters between them. -/
def canonicalName (name : String) : String :=
  let keep (c : Char) : Bool := c.isAlphanum && c.toNat < 128 || c == '.'
  let rec go : List Char → Bool → List Char → List Char
    | [], _, acc => acc.reverse
    | c :: rest, gap, acc =>
      if keep c then
        let acc := if gap && !acc.isEmpty then '_' :: acc else acc
        go rest false (c.toLower :: acc)
      else go rest true acc
  String.ofList (go name.toList false [])

/-- The alias names of codecs in canonical form, each with its codec's name. -/
def aliases : List (String × String) :=
  [("037", "cp037"), ("1026", "cp1026"), ("1125", "cp1125"), ("1140", "cp1140"),
   ("1250", "cp1250"), ("1251", "cp1251"), ("1252", "cp1252"), ("1253", "cp1253"),
   ("1254", "cp1254"), ("1255", "cp1255"), ("1256", "cp1256"), ("1257", "cp1257"),
   ("1258", "cp1258"), ("273", "cp273"), ("424", "cp424"), ("437", "cp437"), ("500", "cp500"),
   ("646", "ascii"), ("775", "cp775"), ("850", "cp850"), ("852", "cp852"), ("855", "cp855"),
   ("857", "cp857"), ("858", "cp858"), ("860", "cp860"), ("861", "cp861"), ("862", "cp862"),
   ("863", "cp863"), ("864", "cp864"), ("865", "cp865"), ("866", "cp866"), ("869", "cp869"),
   ("8859", "latin_1"), ("932", "cp932"), ("936", "gbk"), ("949", "cp949"), ("950", "cp950"),
   ("ansi", "mbcs"), ("ansi_x3.4_1968", "ascii"), ("ansi_x3.4_1986", "ascii"),
   ("ansi_x3_4_1968", "ascii"), ("arabic", "iso8859_6"), ("asmo_708", "iso8859_6"),
   ("base64", "base64_codec"), ("base_64", "base64_codec"), ("big5_hkscs", "big5hkscs"),
   ("big5_tw", "big5"), ("bz2", "bz2_codec"), ("chinese", "gb2312"), ("cp1051", "hp_roman8"),
   ("cp1361", "johab"), ("cp154", "ptcp154"), ("cp367", "ascii"), ("cp65001", "utf_8"),
   ("cp819", "latin_1"), ("cp866u", "cp1125"), ("cp936", "gbk"), ("cp_gr", "cp869"),
   ("cp_is", "cp861"), ("csHPRoman8", "hp_roman8"), ("csascii", "ascii"), ("csbig5", "big5"),
   ("csibm037", "cp037"), ("csibm1026", "cp1026"), ("csibm273", "cp273"), ("csibm424", "cp424"),
   ("csibm500", "cp500"), ("csibm855", "cp855"), ("csibm857", "cp857"), ("csibm858", "cp858"),
   ("csibm860", "cp860"), ("csibm861", "cp861"), ("csibm863", "cp863"), ("csibm864", "cp864"),
   ("csibm865", "cp865"), ("csibm866", "cp866"), ("csibm869", "cp869"),
   ("csiso2022jp", "iso2022_jp"), ("csiso2022kr", "iso2022_kr"), ("csiso58gb231280", "gb2312"),
   ("csisolatin1", "latin_1"), ("csisolatin2", "iso8859_2"), ("csisolatin3", "iso8859_3"),
   ("csisolatin4", "iso8859_4"), ("csisolatin5", "iso8859_9"), ("csisolatin6", "iso8859_10"),
   ("csisolatinarabic", "iso8859_6"), ("csisolatincyrillic", "iso8859_5"),
   ("csisolatingreek", "iso8859_7"), ("csisolatinhebrew", "iso8859_8"), ("cskoi8r", "koi8_r"),
   ("cspc775baltic", "cp775"), ("cspc850multilingual", "cp850"), ("cspc862latinhebrew", "cp862"),
   ("cspc8codepage437", "cp437"), ("cspcp852", "cp852"), ("csptcp154", "ptcp154"),
   ("csshiftjis", "shift_jis"), ("cyrillic", "iso8859_5"), ("cyrillic_asian", "ptcp154"),
   ("dbcs", "mbcs"), ("ebcdic_cp_be", "cp500"), ("ebcdic_cp_ca", "cp037"),
   ("ebcdic_cp_ch", "cp500"), ("ebcdic_cp_he", "cp424"), ("ebcdic_cp_nl", "cp037"),
   ("ebcdic_cp_us", "cp037"), ("ebcdic_cp_wt", "cp037"), ("ecma_114", "iso8859_6"),
   ("ecma_118", "iso8859_7"), ("elot_928", "iso8859_7"), ("euc_cn", "gb2312"),
   ("euc_jis2004", "euc_jis_2004"), ("euccn", "gb2312"), ("eucgb2312_cn", "gb2312"),
   ("eucjis2004", "euc_jis_2004"), ("eucjisx0213", "euc_jisx0213"), ("eucjp", "euc_jp"),
   ("euckr", "euc_kr"), ("gb18030_2000", "gb18030"), ("gb2312_1980", "gb2312"),
   ("gb2312_80", "gb2312"), ("greek", "iso8859_7"), ("greek8", "iso8859_7"),
   ("hebrew", "iso8859_8"), ("hex", "hex_codec"), ("hkscs", "big5hkscs"), ("hz_gb", "hz"),
   ("hz_gb_2312", "hz"), ("hzgb", "hz"), ("ibm037", "cp037"), ("ibm039", "cp037"),
   ("ibm1026", "cp1026"), ("ibm1051", "hp_roman8"), ("ibm1125", "cp1125"), ("ibm1140", "cp1140"),
   ("ibm273", "cp273"), ("ibm367", "ascii"), ("ibm424", "cp424"), ("ibm437", "cp437"),
   ("ibm500", "cp500"), ("ibm775", "cp775"), ("ibm819", "latin_1"), ("ibm850", "cp850"),
   ("ibm852", "cp852"), ("ibm855", "cp855"), ("ibm857", "cp857"), ("ibm858", "cp858"),
   ("ibm860", "cp860"), ("ibm861", "cp861"), ("ibm862", "cp862"), ("ibm863", "cp863"),
   ("ibm864", "cp864"), ("ibm865", "cp865"), ("ibm866", "cp866"), ("ibm869", "cp869"),
   ("iso2022jp", "iso2022_jp"), ("iso2022jp_1", "iso2022_jp_1"), ("iso2022jp_2", "iso2022_jp_2"),
   ("iso2022jp_2004", "iso2022_jp_2004"), ("iso2022jp_3", "iso2022_jp_3"),
   ("iso2022jp_ext", "iso2022_jp_ext"), ("iso2022kr", "iso2022_kr"), ("iso646_us", "ascii"),
   ("iso8859", "latin_1"), ("iso8859_1", "latin_1"), ("iso_2022_jp", "iso2022_jp"),
   ("iso_2022_jp_1", "iso2022_jp_1"), ("iso_2022_jp_2", "iso2022_jp_2"),
   ("iso_2022_jp_2004", "iso2022_jp_2004"), ("iso_2022_jp_3", "iso2022_jp_3"),
   ("iso_2022_jp_ext", "iso2022_jp_ext"), ("iso_2022_kr", "iso2022_kr"),
   ("iso_646.irv_1991", "ascii"), ("iso_8859_1", "latin_1"), ("iso_8859_10", "iso8859_10"),
   ("iso_8859_10_1992", "iso8859_10"), ("iso_8859_11", "iso8859_11"),
   ("iso_8859_11_2001", "iso8859_11"), ("iso_8859_13", "iso8859_13"),
   ("iso_8859_14", "iso8859_14"), ("iso_8859_14_1998", "iso8859_14"),
   ("iso_8859_15", "iso8859_15"), ("iso_8859_16", "iso8859_16"),
   ("iso_8859_16_2001", "iso8859_16"), ("iso_8859_1_1987", "latin_1"), ("iso_8859_2", "iso8859_2"),
   ("iso_8859_2_1987", "iso8859_2"), ("iso_8859_3", "iso8859_3"), ("iso_8859_3_1988", "iso8859_3"),
   ("iso_8859_4", "iso8859_4"), ("iso_8859_4_1988", "iso8859_4"), ("iso_8859_5", "iso8859_5"),
   ("iso_8859_5_1988", "iso8859_5"), ("iso_8859_6", "iso8859_6"), ("iso_8859_6_1987", "iso8859_6"),
   ("iso_8859_7", "iso8859_7"), ("iso_8859_7_1987", "iso8859_7"), ("iso_8859_8", "iso8859_8"),
   ("iso_8859_8_1988", "iso8859_8"), ("iso_8859_9", "iso8859_9"), ("iso_8859_9_1989", "iso8859_9"),
   ("iso_celtic", "iso8859_14"), ("iso_ir_100", "latin_1"), ("iso_ir_101", "iso8859_2"),
   ("iso_ir_109", "iso8859_3"), ("iso_ir_110", "iso8859_4"), ("iso_ir_126", "iso8859_7"),
   ("iso_ir_127", "iso8859_6"), ("iso_ir_138", "iso8859_8"), ("iso_ir_144", "iso8859_5"),
   ("iso_ir_148", "iso8859_9"), ("iso_ir_157", "iso8859_10"), ("iso_ir_166", "tis_620"),
   ("iso_ir_199", "iso8859_14"), ("iso_ir_226", "iso8859_16"), ("iso_ir_58", "gb2312"),
   ("iso_ir_6", "ascii"), ("jisx0213", "euc_jis_2004"), ("korean", "euc_kr"),
   ("ks_c_5601", "euc_kr"), ("ks_c_5601_1987", "euc_kr"), ("ks_x_1001", "euc_kr"),
   ("ksc5601", "euc_kr"), ("ksx1001", "euc_kr"), ("kz_1048", "kz1048"), ("l1", "latin_1"),
   ("l10", "iso8859_16"), ("l2", "iso8859_2"), ("l3", "iso8859_3"), ("l4", "iso8859_4"),
   ("l5", "iso8859_9"), ("l6", "iso8859_10"), ("l7", "iso8859_13"), ("l8", "iso8859_14"),
   ("l9", "iso8859_15"), ("latin", "latin_1"), ("latin1", "latin_1"), ("latin10", "iso8859_16"),
   ("latin2", "iso8859_2"), ("latin3", "iso8859_3"), ("latin4", "iso8859_4"),
   ("latin5", "iso8859_9"), ("latin6", "iso8859_10"), ("latin7", "iso8859_13"),
   ("latin8", "iso8859_14"), ("latin9", "iso8859_15"), ("mac_centeuro", "mac_latin2"),
   ("maccentraleurope", "mac_latin2"), ("maccyrillic", "mac_cyrillic"), ("macgreek", "mac_greek"),
   ("maciceland", "mac_iceland"), ("macintosh", "mac_roman"), ("maclatin2", "mac_latin2"),
   ("macroman", "mac_roman"), ("macturkish", "mac_turkish"), ("ms1361", "johab"),
   ("ms932", "cp932"), ("ms936", "gbk"), ("ms949", "cp949"), ("ms950", "cp950"),
   ("ms_kanji", "cp932"), ("mskanji", "cp932"), ("pt154", "ptcp154"), ("quopri", "quopri_codec"),
   ("quoted_printable", "quopri_codec"), ("quotedprintable", "quopri_codec"), ("r8", "hp_roman8"),
   ("rk1048", "kz1048"), ("roman8", "hp_roman8"), ("rot13", "rot_13"), ("ruscii", "cp1125"),
   ("s_jis", "shift_jis"), ("s_jis_2004", "shift_jis_2004"), ("s_jisx0213", "shift_jisx0213"),
   ("shiftjis", "shift_jis"), ("shiftjis2004", "shift_jis_2004"),
   ("shiftjisx0213", "shift_jisx0213"), ("sjis", "shift_jis"), ("sjis_2004", "shift_jis_2004"),
   ("sjisx0213", "shift_jisx0213"), ("strk1048_2002", "kz1048"), ("thai", "iso8859_11"),
   ("tis620", "tis_620"), ("tis_620_0", "tis_620"), ("tis_620_2529_0", "tis_620"),
   ("tis_620_2529_1", "tis_620"), ("u16", "utf_16"), ("u32", "utf_32"), ("u7", "utf_7"),
   ("u8", "utf_8"), ("u_jis", "euc_jp"), ("uhc", "cp949"), ("ujis", "euc_jp"),
   ("unicode_1_1_utf_7", "utf_7"), ("unicodebigunmarked", "utf_16_be"),
   ("unicodelittleunmarked", "utf_16_le"), ("us", "ascii"), ("us_ascii", "ascii"),
   ("utf", "utf_8"), ("utf16", "utf_16"), ("utf32", "utf_32"), ("utf7", "utf_7"),
   ("utf8", "utf_8"), ("utf8_ucs2", "utf_8"), ("utf8_ucs4", "utf_8"), ("utf_16be", "utf_16_be"),
   ("utf_16le", "utf_16_le"), ("utf_32be", "utf_32_be"), ("utf_32le", "utf_32_le"),
   ("uu", "uu_codec"), ("windows_1250", "cp1250"), ("windows_1251", "cp1251"),
   ("windows_1252", "cp1252"), ("windows_1253", "cp1253"), ("windows_1254", "cp1254"),
   ("windows_1255", "cp1255"), ("windows_1256", "cp1256"), ("windows_1257", "cp1257"),
   ("windows_1258", "cp1258"), ("x_mac_japanese", "shift_jis"), ("x_mac_korean", "euc_kr"),
   ("x_mac_simp_chinese", "gb2312"), ("x_mac_trad_chinese", "big5"), ("zip", "zlib_codec"),
   ("zlib", "zlib_codec")]

/-- The names of codec definitions; `aliases` is among them, though it defines
no codec. -/
def codecModules : List String :=
  ["aliases", "ascii", "base64_codec", "big5", "big5hkscs", "bz2_codec", "charmap", "cp037",
   "cp1006", "cp1026", "cp1125", "cp1140", "cp1250", "cp1251", "cp1252", "cp1253", "cp1254",
   "cp1255", "cp1256", "cp1257", "cp1258", "cp273", "cp424", "cp437", "cp500", "cp720", "cp737",
   "cp775", "cp850", "cp852", "cp855", "cp856", "cp857", "cp858", "cp860", "cp861", "cp862",
   "cp863", "cp864", "cp865", "cp866", "cp869", "cp874", "cp875", "cp932", "cp949", "cp950",
   "euc_jis_2004", "euc_jisx0213", "euc_jp", "euc_kr", "gb18030", "gb2312", "gbk", "hex_codec",
   "hp_roman8", "hz", "idna", "iso2022_jp", "iso2022_jp_1", "iso2022_jp_2", "iso2022_jp_2004",
   "iso2022_jp_3", "iso2022_jp_ext", "iso2022_kr", "iso8859_1", "iso8859_10", "iso8859_11",
   "iso8859_13", "iso8859_14", "iso8859_15", "iso8859_16", "iso8859_2", "iso8859_3", "iso8859_4",
   "iso8859_5", "iso8859_6", "iso8859_7", "iso8859_8", "iso8859_9", "johab", "koi8_r", "koi8_t",
   "koi8_u", "kz1048", "latin_1", "mac_arabic", "mac_croatian", "mac_cyrillic", "mac_farsi",
   "mac_greek", "mac_iceland", "mac_latin2", "mac_roman", "mac_romanian", "mac_turkish", "mbcs",
   "oem", "palmos", "ptcp154", "punycode", "quopri_codec", "raw_unicode_escape", "rot_13",
   "shift_jis", "shift_jis_2004", "shift_jisx0213", "tis_620", "undefined", "unicode_escape",
   "utf_16", "utf_16_be", "utf_16_le", "utf_32", "utf_32_be", "utf_32_le", "utf_7", "utf_8",
   "utf_8_sig", "uu_codec", "zlib_codec"]

/-- The codec names that exist on another system only. -/
def foreignModules : List String := ["mbcs", "oem"]

/-- The codecs from bytes to bytes. -/
def binaryModules : List String :=
  ["base64_codec", "bz2_codec", "hex_codec", "quopri_codec", "rot_13", "uu_codec", "zlib_codec"]

end VCard.Charset
