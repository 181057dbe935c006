import VCard.Text.Case
import VCard.Text.Literal
/-! Preparation of internationalized domain labels (RFC 3491, Unicode 3.2).

A label is prepared in three steps. *Mapping* drops the characters that map to
nothing (soft hyphen, joiners, variation selectors, ...) and replaces every other
character by its case fold in compatibility form; for most characters that is
their lower case, and `mappingExceptions` lists the others among the common
scripts, the ligatures and the full-width forms. *Prohibition* refuses spaces
and controls outside ASCII, private-use characters, non-characters, surrogates
and the directional and tagging controls. The *bidirectional rule* refuses a
label with a right-to-left character unless the label starts and ends with one
and holds no left-to-right character.

A prepared label is not normalized as a whole: combining sequences keep their
form. -/
namespace VCard.Charset

/-- Characters that map to nothing (table B.1). -/
def mappedOut : List Nat :=
  [0xAD, 0x34F, 0x1806, 0x180B, 0x180C, 0x180D, 0x200B, 0x200C, 0x200D, 0x2060, 0xFE00, 0xFE01,
   0xFE02, 0xFE03, 0xFE04, 0xFE05, 0xFE06, 0xFE07, 0xFE08, 0xFE09, 0xFE0A, 0xFE0B, 0xFE0C, 0xFE0D,
   0xFE0E, 0xFE0F, 0xFEFF]

/-- Characters whose mapping (table B.2, then compatibility composition) is not
their lower case. -/
def mappingExceptions : List (Nat × String) :=
  [(0xA0, " "), (0xA8, " \u0308"), (0xAA, "a"), (0xAF, " \u0304"), (0xB2, "2"), (0xB3, "3"),
   (0xB4, " \u0301"), (0xB5, "μ"), (0xB8, " \u0327"), (0xB9, "1"), (0xBA, "o"), (0xBC, "1\u20444"),
   (0xBD, "1\u20442"), (0xBE, "3\u20444"), (0xDF, "ss"), (0x132, "ij"), (0x133, "ij"),
   (0x13F, "l·"), (0x140, "l·"), (0x149, "ʼn"), (0x17F, "s"), (0x1C4, "dž"), (0x1C5, "dž"),
   (0x1C6, "dž"), (0x1C7, "lj"), (0x1C8, "lj"), (0x1C9, "lj"), (0x1CA, "nj"), (0x1CB, "nj"),
   (0x1CC, "nj"), (0x1F1, "dz"), (0x1F2, "dz"), (0x1F3, "dz"), (0x2B0, "h"), (0x2B1, "ɦ"),
   (0x2B2, "j"), (0x2B3, "r"), (0x2B4, "ɹ"), (0x2B5, "ɻ"), (0x2B6, "ʁ"), (0x2B7, "w"),
   (0x2B8, "y"), (0x2D8, " \u0306"), (0x2D9, " \u0307"), (0x2DA, " \u030a"), (0x2DB, " \u0328"),
   (0x2DC, " \u0303"), (0x2DD, " \u030b"), (0x2E0, "ɣ"), (0x2E1, "l"), (0x2E2, "s"), (0x2E3, "x"),
   (0x2E4, "ʕ"), (0x340, "\u0300"), (0x341, "\u0301"), (0x343, "\u0313"), (0x344, "\u0308\u0301"),
   (0x345, "ι"), (0x374, "ʹ"), (0x37A, " ι"), (0x37E, ";"), (0x384, " \u0301"),
   (0x385, " \u0308\u0301"), (0x387, "·"), (0x3C2, "σ"), (0x3D0, "β"), (0x3D1, "θ"), (0x3D2, "υ"),
   (0x3D3, "ύ"), (0x3D4, "ϋ"), (0x3D5, "φ"), (0x3D6, "π"), (0x3F0, "κ"), (0x3F1, "ρ"),
   (0x3F2, "σ"), (0x3F5, "ε"), (0x3F9, "σ"), (0x587, "եւ"), (0x675, "اٴ"), (0x676, "وٴ"),
   (0x677, "ۇٴ"), (0x678, "يٴ"), (0x958, "क़"), (0x959, "ख़"), (0x95A, "ग़"), (0x95B, "ज़"),
   (0x95C, "ड़"), (0x95D, "ढ़"), (0x95E, "फ़"), (0x95F, "य़"), (0x9DC, "ড়"), (0x9DD, "ঢ়"),
   (0x9DF, "য়"), (0xA33, "ਲ਼"), (0xA36, "ਸ਼"), (0xA59, "ਖ਼"), (0xA5A, "ਗ਼"), (0xA5B, "ਜ਼"),
   (0xA5E, "ਫ਼"), (0xB5C, "ଡ଼"), (0xB5D, "ଢ଼"), (0xE33, "ํา"), (0xEB3, "ໍາ"), (0xEDC, "ຫນ"),
   (0xEDD, "ຫມ"), (0xF0C, "་"), (0xF43, "གྷ"), (0xF4D, "ཌྷ"), (0xF52, "དྷ"), (0xF57, "བྷ"),
   (0xF5C, "ཛྷ"), (0xF69, "ཀྵ"), (0xF73, "ཱི"), (0xF75, "ཱུ"), (0xF76, "ྲྀ"), (0xF77, "ྲཱྀ"),
   (0xF78, "ླྀ"), (0xF79, "ླཱྀ"), (0xF81, "ཱྀ"), (0xF93, "ྒྷ"), (0xF9D, "ྜྷ"), (0xFA2, "ྡྷ"),
   (0xFA7, "ྦྷ"), (0xFAC, "ྫྷ"), (0xFB9, "ྐྵ"), (0x1E9A, "aʾ"), (0x1E9B, "ṡ"), (0x1E9E, "ss"),
   (0x1F71, "ά"), (0x1F73, "έ"), (0x1F75, "ή"), (0x1F77, "ί"), (0x1F79, "ό"), (0x1F7B, "ύ"),
   (0x1F7D, "ώ"), (0x1F80, "ἀι"), (0x1F81, "ἁι"), (0x1F82, "ἂι"), (0x1F83, "ἃι"), (0x1F84, "ἄι"),
   (0x1F85, "ἅι"), (0x1F86, "ἆι"), (0x1F87, "ἇι"), (0x1F88, "ἀι"), (0x1F89, "ἁι"), (0x1F8A, "ἂι"),
   (0x1F8B, "ἃι"), (0x1F8C, "ἄι"), (0x1F8D, "ἅι"), (0x1F8E, "ἆι"), (0x1F8F, "ἇι"), (0x1F90, "ἠι"),
   (0x1F91, "ἡι"), (0x1F92, "ἢι"), (0x1F93, "ἣι"), (0x1F94, "ἤι"), (0x1F95, "ἥι"), (0x1F96, "ἦι"),
   (0x1F97, "ἧι"), (0x1F98, "ἠι"), (0x1F99, "ἡι"), (0x1F9A, "ἢι"), (0x1F9B, "ἣι"), (0x1F9C, "ἤι"),
   (0x1F9D, "ἥι"), (0x1F9E, "ἦι"), (0x1F9F, "ἧι"), (0x1FA0, "ὠι"), (0x1FA1, "ὡι"), (0x1FA2, "ὢι"),
   (0x1FA3, "ὣι"), (0x1FA4, "ὤι"), (0x1FA5, "ὥι"), (0x1FA6, "ὦι"), (0x1FA7, "ὧι"), (0x1FA8, "ὠι"),
   (0x1FA9, "ὡι"), (0x1FAA, "ὢι"), (0x1FAB, "ὣι"), (0x1FAC, "ὤι"), (0x1FAD, "ὥι"), (0x1FAE, "ὦι"),
   (0x1FAF, "ὧι"), (0x1FB2, "ὰι"), (0x1FB3, "αι"), (0x1FB4, "άι"), (0x1FB7, "ᾶι"), (0x1FBB, "ά"),
   (0x1FBC, "αι"), (0x1FBD, " \u0313"), (0x1FBE, "ι"), (0x1FBF, " \u0313"), (0x1FC0, " \u0342"),
   (0x1FC1, " \u0308\u0342"), (0x1FC2, "ὴι"), (0x1FC3, "ηι"), (0x1FC4, "ήι"), (0x1FC7, "ῆι"),
   (0x1FC9, "έ"), (0x1FCB, "ή"), (0x1FCC, "ηι"), (0x1FCD, " \u0313\u0300"),
   (0x1FCE, " \u0313\u0301"), (0x1FCF, " \u0313\u0342"), (0x1FD3, "ΐ"), (0x1FDB, "ί"),
   (0x1FDD, " \u0314\u0300"), (0x1FDE, " \u0314\u0301"), (0x1FDF, " \u0314\u0342"), (0x1FE3, "ΰ"),
   (0x1FEB, "ύ"), (0x1FED, " \u0308\u0300"), (0x1FEE, " \u0308\u0301"), (0x1FEF, "\x60"),
   (0x1FF2, "ὼι"), (0x1FF3, "ωι"), (0x1FF4, "ώι"), (0x1FF7, "ῶι"), (0x1FF9, "ό"), (0x1FFB, "ώ"),
   (0x1FFC, "ωι"), (0x1FFD, " \u0301"), (0x1FFE, " \u0314"), (0x2000, " "), (0x2001, " "),
   (0x2002, " "), (0x2003, " "), (0x2004, " "), (0x2005, " "), (0x2006, " "), (0x2007, " "),
   (0x2008, " "), (0x2009, " "), (0x200A, " "), (0x2011, "\u2010"), (0x2017, " \u0333"),
   (0x2024, "."), (0x2025, ".."), (0x2026, "..."), (0x202F, " "), (0x2033, "\u2032\u2032"),
   (0x2034, "\u2032\u2032\u2032"), (0x2036, "\u2035\u2035"), (0x2037, "\u2035\u2035\u2035"),
   (0x203C, "!!"), (0x203E, " \u0305"), (0x2047, "??"), (0x2048, "?!"), (0x2049, "!?"),
   (0x2057, "\u2032\u2032\u2032\u2032"), (0x205F, " "), (0x2070, "0"), (0x2071, "i"),
   (0x2074, "4"), (0x2075, "5"), (0x2076, "6"), (0x2077, "7"), (0x2078, "8"), (0x2079, "9"),
   (0x207A, "+"), (0x207B, "−"), (0x207C, "="), (0x207D, "("), (0x207E, ")"), (0x207F, "n"),
   (0x2080, "0"), (0x2081, "1"), (0x2082, "2"), (0x2083, "3"), (0x2084, "4"), (0x2085, "5"),
   (0x2086, "6"), (0x2087, "7"), (0x2088, "8"), (0x2089, "9"), (0x208A, "+"), (0x208B, "−"),
   (0x208C, "="), (0x208D, "("), (0x208E, ")"), (0x20A8, "rs"), (0x2100, "a/c"), (0x2101, "a/s"),
   (0x2102, "c"), (0x2103, "°c"), (0x2105, "c/o"), (0x2106, "c/u"), (0x2107, "ɛ"), (0x2109, "°f"),
   (0x210A, "g"), (0x210B, "h"), (0x210C, "h"), (0x210D, "h"), (0x210E, "h"), (0x210F, "ħ"),
   (0x2110, "i"), (0x2111, "i"), (0x2112, "l"), (0x2113, "l"), (0x2115, "n"), (0x2116, "no"),
   (0x2119, "p"), (0x211A, "q"), (0x211B, "r"), (0x211C, "r"), (0x211D, "r"), (0x2120, "sm"),
   (0x2121, "tel"), (0x2122, "tm"), (0x2124, "z"), (0x2128, "z"), (0x212C, "b"), (0x212D, "c"),
   (0x212F, "e"), (0x2130, "e"), (0x2131, "f"), (0x2133, "m"), (0x2134, "o"), (0x2135, "א"),
   (0x2136, "ב"), (0x2137, "ג"), (0x2138, "ד"), (0x2139, "i"), (0x213D, "γ"), (0x213E, "γ"),
   (0x213F, "π"), (0x2140, "∑"), (0x2145, "d"), (0x2146, "d"), (0x2147, "e"), (0x2148, "i"),
   (0x2149, "j"), (0x2153, "1\u20443"), (0x2154, "2\u20443"), (0x2155, "1\u20445"),
   (0x2156, "2\u20445"), (0x2157, "3\u20445"), (0x2158, "4\u20445"), (0x2159, "1\u20446"),
   (0x215A, "5\u20446"), (0x215B, "1\u20448"), (0x215C, "3\u20448"), (0x215D, "5\u20448"),
   (0x215E, "7\u20448"), (0x215F, "1\u2044"), (0x2160, "i"), (0x2161, "ii"), (0x2162, "iii"),
   (0x2163, "iv"), (0x2164, "v"), (0x2165, "vi"), (0x2166, "vii"), (0x2167, "viii"),
   (0x2168, "ix"), (0x2169, "x"), (0x216A, "xi"), (0x216B, "xii"), (0x216C, "l"), (0x216D, "c"),
   (0x216E, "d"), (0x216F, "m"), (0x2170, "i"), (0x2171, "ii"), (0x2172, "iii"), (0x2173, "iv"),
   (0x2174, "v"), (0x2175, "vi"), (0x2176, "vii"), (0x2177, "viii"), (0x2178, "ix"), (0x2179, "x"),
   (0x217A, "xi"), (0x217B, "xii"), (0x217C, "l"), (0x217D, "c"), (0x217E, "d"), (0x217F, "m"),
   (0x222C, "∫∫"), (0x222D, "∫∫∫"), (0x222F, "∮∮"), (0x2230, "∮∮∮"), (0x2329, "〈"), (0x232A, "〉"),
   (0x2460, "1"), (0x2461, "2"), (0x2462, "3"), (0x2463, "4"), (0x2464, "5"), (0x2465, "6"),
   (0x2466, "7"), (0x2467, "8"), (0x2468, "9"), (0x2469, "10"), (0x246A, "11"), (0x246B, "12"),
   (0x246C, "13"), (0x246D, "14"), (0x246E, "15"), (0x246F, "16"), (0x2470, "17"), (0x2471, "18"),
   (0x2472, "19"), (0x2473, "20"), (0x2474, "(1)"), (0x2475, "(2)"), (0x2476, "(3)"),
   (0x2477, "(4)"), (0x2478, "(5)"), (0x2479, "(6)"), (0x247A, "(7)"), (0x247B, "(8)"),
   (0x247C, "(9)"), (0x247D, "(10)"), (0x247E, "(11)"), (0x247F, "(12)"), (0x2480, "(13)"),
   (0x2481, "(14)"), (0x2482, "(15)"), (0x2483, "(16)"), (0x2484, "(17)"), (0x2485, "(18)"),
   (0x2486, "(19)"), (0x2487, "(20)"), (0x2488, "1."), (0x2489, "2."), (0x248A, "3."),
   (0x248B, "4."), (0x248C, "5."), (0x248D, "6."), (0x248E, "7."), (0x248F, "8."), (0x2490, "9."),
   (0x2491, "10."), (0x2492, "11."), (0x2493, "12."), (0x2494, "13."), (0x2495, "14."),
   (0x2496, "15."), (0x2497, "16."), (0x2498, "17."), (0x2499, "18."), (0x249A, "19."),
   (0x249B, "20."), (0x249C, "(a)"), (0x249D, "(b)"), (0x249E, "(c)"), (0x249F, "(d)"),
   (0x24A0, "(e)"), (0x24A1, "(f)"), (0x24A2, "(g)"), (0x24A3, "(h)"), (0x24A4, "(i)"),
   (0x24A5, "(j)"), (0x24A6, "(k)"), (0x24A7, "(l)"), (0x24A8, "(m)"), (0x24A9, "(n)"),
   (0x24AA, "(o)"), (0x24AB, "(p)"), (0x24AC, "(q)"), (0x24AD, "(r)"), (0x24AE, "(s)"),
   (0x24AF, "(t)"), (0x24B0, "(u)"), (0x24B1, "(v)"), (0x24B2, "(w)"), (0x24B3, "(x)"),
   (0x24B4, "(y)"), (0x24B5, "(z)"), (0x24B6, "a"), (0x24B7, "b"), (0x24B8, "c"), (0x24B9, "d"),
   (0x24BA, "e"), (0x24BB, "f"), (0x24BC, "g"), (0x24BD, "h"), (0x24BE, "i"), (0x24BF, "j"),
   (0x24C0, "k"), (0x24C1, "l"), (0x24C2, "m"), (0x24C3, "n"), (0x24C4, "o"), (0x24C5, "p"),
   (0x24C6, "q"), (0x24C7, "r"), (0x24C8, "s"), (0x24C9, "t"), (0x24CA, "u"), (0x24CB, "v"),
   (0x24CC, "w"), (0x24CD, "x"), (0x24CE, "y"), (0x24CF, "z"), (0x24D0, "a"), (0x24D1, "b"),
   (0x24D2, "c"), (0x24D3, "d"), (0x24D4, "e"), (0x24D5, "f"), (0x24D6, "g"), (0x24D7, "h"),
   (0x24D8, "i"), (0x24D9, "j"), (0x24DA, "k"), (0x24DB, "l"), (0x24DC, "m"), (0x24DD, "n"),
   (0x24DE, "o"), (0x24DF, "p"), (0x24E0, "q"), (0x24E1, "r"), (0x24E2, "s"), (0x24E3, "t"),
   (0x24E4, "u"), (0x24E5, "v"), (0x24E6, "w"), (0x24E7, "x"), (0x24E8, "y"), (0x24E9, "z"),
   (0x24EA, "0"), (0x2A0C, "∫∫∫∫"), (0x2A74, "::="), (0x2A75, "=="), (0x2A76, "==="),
   (0x2ADC, "⫝\u0338"), (0x2E9F, "母"), (0x2EF3, "龟"), (0x2F00, "一"), (0x2F01, "丨"), (0x2F02, "丶"),
   (0x2F03, "丿"), (0x2F04, "乙"), (0x2F05, "亅"), (0x2F06, "二"), (0x2F07, "亠"), (0x2F08, "人"),
   (0x2F09, "儿"), (0x2F0A, "入"), (0x2F0B, "八"), (0x2F0C, "冂"), (0x2F0D, "冖"), (0x2F0E, "冫"),
   (0x2F0F, "几"), (0x2F10, "凵"), (0x2F11, "刀"), (0x2F12, "力"), (0x2F13, "勹"), (0x2F14, "匕"),
   (0x2F15, "匚"), (0x2F16, "匸"), (0x2F17, "十"), (0x2F18, "卜"), (0x2F19, "卩"), (0x2F1A, "厂"),
   (0x2F1B, "厶"), (0x2F1C, "又"), (0x2F1D, "口"), (0x2F1E, "囗"), (0x2F1F, "土"), (0x2F20, "士"),
   (0x2F21, "夂"), (0x2F22, "夊"), (0x2F23, "夕"), (0x2F24, "大"), (0x2F25, "女"), (0x2F26, "子"),
   (0x2F27, "宀"), (0x2F28, "寸"), (0x2F29, "小"), (0x2F2A, "尢"), (0x2F2B, "尸"), (0x2F2C, "屮"),
   (0x2F2D, "山"), (0x2F2E, "巛"), (0x2F2F, "工"), (0x2F30, "己"), (0x2F31, "巾"), (0x2F32, "干"),
   (0x2F33, "幺"), (0x2F34, "广"), (0x2F35, "廴"), (0x2F36, "廾"), (0x2F37, "弋"), (0x2F38, "弓"),
   (0x2F39, "彐"), (0x2F3A, "彡"), (0x2F3B, "彳"), (0x2F3C, "心"), (0x2F3D, "戈"), (0x2F3E, "戶"),
   (0x2F3F, "手"), (0x2F40, "支"), (0x2F41, "攴"), (0x2F42, "文"), (0x2F43, "斗"), (0x2F44, "斤"),
   (0x2F45, "方"), (0x2F46, "无"), (0x2F47, "日"), (0x2F48, "曰"), (0x2F49, "月"), (0x2F4A, "木"),
   (0x2F4B, "欠"), (0x2F4C, "止"), (0x2F4D, "歹"), (0x2F4E, "殳"), (0x2F4F, "毋"), (0x2F50, "比"),
   (0x2F51, "毛"), (0x2F52, "氏"), (0x2F53, "气"), (0x2F54, "水"), (0x2F55, "火"), (0x2F56, "爪"),
   (0x2F57, "父"), (0x2F58, "爻"), (0x2F59, "爿"), (0x2F5A, "片"), (0x2F5B, "牙"), (0x2F5C, "牛"),
   (0x2F5D, "犬"), (0x2F5E, "玄"), (0x2F5F, "玉"), (0x2F60, "瓜"), (0x2F61, "瓦"), (0x2F62, "甘"),
   (0x2F63, "生"), (0x2F64, "用"), (0x2F65, "田"), (0x2F66, "疋"), (0x2F67, "疒"), (0x2F68, "癶"),
   (0x2F69, "白"), (0x2F6A, "皮"), (0x2F6B, "皿"), (0x2F6C, "目"), (0x2F6D, "矛"), (0x2F6E, "矢"),
   (0x2F6F, "石"), (0x2F70, "示"), (0x2F71, "禸"), (0x2F72, "禾"), (0x2F73, "穴"), (0x2F74, "立"),
   (0x2F75, "竹"), (0x2F76, "米"), (0x2F77, "糸"), (0x2F78, "缶"), (0x2F79, "网"), (0x2F7A, "羊"),
   (0x2F7B, "羽"), (0x2F7C, "老"), (0x2F7D, "而"), (0x2F7E, "耒"), (0x2F7F, "耳"), (0x2F80, "聿"),
   (0x2F81, "肉"), (0x2F82, "臣"), (0x2F83, "自"), (0x2F84, "至"), (0x2F85, "臼"), (0x2F86, "舌"),
   (0x2F87, "舛"), (0x2F88, "舟"), (0x2F89, "艮"), (0x2F8A, "色"), (0x2F8B, "艸"), (0x2F8C, "虍"),
   (0x2F8D, "虫"), (0x2F8E, "血"), (0x2F8F, "行"), (0x2F90, "衣"), (0x2F91, "襾"), (0x2F92, "見"),
   (0x2F93, "角"), (0x2F94, "言"), (0x2F95, "谷"), (0x2F96, "豆"), (0x2F97, "豕"), (0x2F98, "豸"),
   (0x2F99, "貝"), (0x2F9A, "赤"), (0x2F9B, "走"), (0x2F9C, "足"), (0x2F9D, "身"), (0x2F9E, "車"),
   (0x2F9F, "辛"), (0x2FA0, "辰"), (0x2FA1, "辵"), (0x2FA2, "邑"), (0x2FA3, "酉"), (0x2FA4, "釆"),
   (0x2FA5, "里"), (0x2FA6, "金"), (0x2FA7, "長"), (0x2FA8, "門"), (0x2FA9, "阜"), (0x2FAA, "隶"),
   (0x2FAB, "隹"), (0x2FAC, "雨"), (0x2FAD, "靑"), (0x2FAE, "非"), (0x2FAF, "面"), (0x2FB0, "革"),
   (0x2FB1, "韋"), (0x2FB2, "韭"), (0x2FB3, "音"), (0x2FB4, "頁"), (0x2FB5, "風"), (0x2FB6, "飛"),
   (0x2FB7, "食"), (0x2FB8, "首"), (0x2FB9, "香"), (0x2FBA, "馬"), (0x2FBB, "骨"), (0x2FBC, "高"),
   (0x2FBD, "髟"), (0x2FBE, "鬥"), (0x2FBF, "鬯"), (0x2FC0, "鬲"), (0x2FC1, "鬼"), (0x2FC2, "魚"),
   (0x2FC3, "鳥"), (0x2FC4, "鹵"), (0x2FC5, "鹿"), (0x2FC6, "麥"), (0x2FC7, "麻"), (0x2FC8, "黃"),
   (0x2FC9, "黍"), (0x2FCA, "黑"), (0x2FCB, "黹"), (0x2FCC, "黽"), (0x2FCD, "鼎"), (0x2FCE, "鼓"),
   (0x2FCF, "鼠"), (0x2FD0, "鼻"), (0x2FD1, "齊"), (0x2FD2, "齒"), (0x2FD3, "龍"), (0x2FD4, "龜"),
   (0x2FD5, "龠"), (0xFB00, "ff"), (0xFB01, "fi"), (0xFB02, "fl"), (0xFB03, "ffi"), (0xFB04, "ffl"),
   (0xFB05, "st"), (0xFB06, "st"), (0xFB13, "մն"), (0xFB14, "մե"), (0xFB15, "մի"), (0xFB16, "վն"),
   (0xFB17, "մխ"), (0xFB1D, "יִ"), (0xFB1F, "ײַ"), (0xFB20, "ע"), (0xFB21, "א"), (0xFB22, "ד"),
   (0xFB23, "ה"), (0xFB24, "כ"), (0xFB25, "ל"), (0xFB26, "ם"), (0xFB27, "ר"), (0xFB28, "ת"),
   (0xFB29, "+"), (0xFB2A, "שׁ"), (0xFB2B, "שׂ"), (0xFB2C, "שּׁ"), (0xFB2D, "שּׂ"), (0xFB2E, "אַ"),
   (0xFB2F, "אָ"), (0xFB30, "אּ"), (0xFB31, "בּ"), (0xFB32, "גּ"), (0xFB33, "דּ"), (0xFB34, "הּ"),
   (0xFB35, "וּ"), (0xFB36, "זּ"), (0xFB38, "טּ"), (0xFB39, "יּ"), (0xFB3A, "ךּ"), (0xFB3B, "כּ"),
   (0xFB3C, "לּ"), (0xFB3E, "מּ"), (0xFB40, "נּ"), (0xFB41, "סּ"), (0xFB43, "ףּ"), (0xFB44, "פּ"),
   (0xFB46, "צּ"), (0xFB47, "קּ"), (0xFB48, "רּ"), (0xFB49, "שּ"), (0xFB4A, "תּ"), (0xFB4B, "וֹ"),
   (0xFB4C, "בֿ"), (0xFB4D, "כֿ"), (0xFB4E, "פֿ"), (0xFB4F, "אל"), (0xFF01, "!"), (0xFF02, "\x22"),
   (0xFF03, "#"), (0xFF04, "$"), (0xFF05, "%"), (0xFF06, "&"), (0xFF07, "\x27"), (0xFF08, "("),
   (0xFF09, ")"), (0xFF0A, "*"), (0xFF0B, "+"), (0xFF0C, ","), (0xFF0D, "-"), (0xFF0E, "."),
   (0xFF0F, "/"), (0xFF10, "0"), (0xFF11, "1"), (0xFF12, "2"), (0xFF13, "3"), (0xFF14, "4"),
   (0xFF15, "5"), (0xFF16, "6"), (0xFF17, "7"), (0xFF18, "8"), (0xFF19, "9"), (0xFF1A, ":"),
   (0xFF1B, ";"), (0xFF1C, "<"), (0xFF1D, "="), (0xFF1E, ">"), (0xFF1F, "?"), (0xFF20, "@"),
   (0xFF21, "a"), (0xFF22, "b"), (0xFF23, "c"), (0xFF24, "d"), (0xFF25, "e"), (0xFF26, "f"),
   (0xFF27, "g"), (0xFF28, "h"), (0xFF29, "i"), (0xFF2A, "j"), (0xFF2B, "k"), (0xFF2C, "l"),
   (0xFF2D, "m"), (0xFF2E, "n"), (0xFF2F, "o"), (0xFF30, "p"), (0xFF31, "q"), (0xFF32, "r"),
   (0xFF33, "s"), (0xFF34, "t"), (0xFF35, "u"), (0xFF36, "v"), (0xFF37, "w"), (0xFF38, "x"),
   (0xFF39, "y"), (0xFF3A, "z"), (0xFF3B, "["), (0xFF3C, "\x5c"), (0xFF3D, "]"), (0xFF3E, "^"),
   (0xFF3F, "_"), (0xFF40, "\x60"), (0xFF41, "a"), (0xFF42, "b"), (0xFF43, "c"), (0xFF44, "d"),
   (0xFF45, "e"), (0xFF46, "f"), (0xFF47, "g"), (0xFF48, "h"), (0xFF49, "i"), (0xFF4A, "j"),
   (0xFF4B, "k"), (0xFF4C, "l"), (0xFF4D, "m"), (0xFF4E, "n"), (0xFF4F, "o"), (0xFF50, "p"),
   (0xFF51, "q"), (0xFF52, "r"), (0xFF53, "s"), (0xFF54, "t"), (0xFF55, "u"), (0xFF56, "v"),
   (0xFF57, "w"), (0xFF58, "x"), (0xFF59, "y"), (0xFF5A, "z"), (0xFF5B, "\x7b"), (0xFF5C, "|"),
   (0xFF5D, "\x7d"), (0xFF5E, "~"), (0xFF5F, "⦅"), (0xFF60, "⦆"), (0xFF61, "。"), (0xFF62, "「"),
   (0xFF63, "」"), (0xFF64, "、"), (0xFF65, "・"), (0xFF66, "ヲ"), (0xFF67, "ァ"), (0xFF68, "ィ"),
   (0xFF69, "ゥ"), (0xFF6A, "ェ"), (0xFF6B, "ォ"), (0xFF6C, "ャ"), (0xFF6D, "ュ"), (0xFF6E, "ョ"),
   (0xFF6F, "ッ"), (0xFF70, "ー"), (0xFF71, "ア"), (0xFF72, "イ"), (0xFF73, "ウ"), (0xFF74, "エ"),
   (0xFF75, "オ"), (0xFF76, "カ"), (0xFF77, "キ"), (0xFF78, "ク"), (0xFF79, "ケ"), (0xFF7A, "コ"),
   (0xFF7B, "サ"), (0xFF7C, "シ"), (0xFF7D, "ス"), (0xFF7E, "セ"), (0xFF7F, "ソ"), (0xFF80, "タ"),
   (0xFF81, "チ"), (0xFF82, "ツ"), (0xFF83, "テ"), (0xFF84, "ト"), (0xFF85, "ナ"), (0xFF86, "ニ"),
   (0xFF87, "ヌ"), (0xFF88, "ネ"), (0xFF89, "ノ"), (0xFF8A, "ハ"), (0xFF8B, "ヒ"), (0xFF8C, "フ"),
   (0xFF8D, "ヘ"), (0xFF8E, "ホ"), (0xFF8F, "マ"), (0xFF90, "ミ"), (0xFF91, "ム"), (0xFF92, "メ"),
   (0xFF93, "モ"), (0xFF94, "ヤ"), (0xFF95, "ユ"), (0xFF96, "ヨ"), (0xFF97, "ラ"), (0xFF98, "リ"),
   (0xFF99, "ル"), (0xFF9A, "レ"), (0xFF9B, "ロ"), (0xFF9C, "ワ"), (0xFF9D, "ン"), (0xFF9E, "゙"),
   (0xFF9F, "゚"), (0xFFA0, "ᅠ"), (0xFFA1, "ᄀ"), (0xFFA2, "ᄁ"), (0xFFA3, "ᆪ"), (0xFFA4, "ᄂ"),
   (0xFFA5, "ᆬ"), (0xFFA6, "ᆭ"), (0xFFA7, "ᄃ"), (0xFFA8, "ᄄ"), (0xFFA9, "ᄅ"), (0xFFAA, "ᆰ"),
   (0xFFAB, "ᆱ"), (0xFFAC, "ᆲ"), (0xFFAD, "ᆳ"), (0xFFAE, "ᆴ"), (0xFFAF, "ᆵ"), (0xFFB0, "ᄚ"),
   (0xFFB1, "ᄆ"), (0xFFB2, "ᄇ"), (0xFFB3, "ᄈ"), (0xFFB4, "ᄡ"), (0xFFB5, "ᄉ"), (0xFFB6, "ᄊ"),
   (0xFFB7, "ᄋ"), (0xFFB8, "ᄌ"), (0xFFB9, "ᄍ"), (0xFFBA, "ᄎ"), (0xFFBB, "ᄏ"), (0xFFBC, "ᄐ"),
   (0xFFBD, "ᄑ"), (0xFFBE, "ᄒ"), (0xFFC2, "ᅡ"), (0xFFC3, "ᅢ"), (0xFFC4, "ᅣ"), (0xFFC5, "ᅤ"),
   (0xFFC6, "ᅥ"), (0xFFC7, "ᅦ"), (0xFFCA, "ᅧ"), (0xFFCB, "ᅨ"), (0xFFCC, "ᅩ"), (0xFFCD, "ᅪ"),
   (0xFFCE, "ᅫ"), (0xFFCF, "ᅬ"), (0xFFD2, "ᅭ"), (0xFFD3, "ᅮ"), (0xFFD4, "ᅯ"), (0xFFD5, "ᅰ"),
   (0xFFD6, "ᅱ"), (0xFFD7, "ᅲ"), (0xFFDA, "ᅳ"), (0xFFDB, "ᅴ"), (0xFFDC, "ᅵ"), (0xFFE0, "¢"),
   (0xFFE1, "£"), (0xFFE2, "¬"), (0xFFE3, " \u0304"), (0xFFE4, "¦"), (0xFFE5, "¥"), (0xFFE6, "₩"),
   (0xFFE8, "│"), (0xFFE9, "←"), (0xFFEA, "↑"), (0xFFEB, "→"), (0xFFEC, "↓"), (0xFFED, "■"),
   (0xFFEE, "○")]

/-- Prohibited characters (tables C.1.2 to C.9). -/
def prohibitedRanges : List (Nat × Nat) :=
  [(0x80, 0xA0), (0x340, 0x341), (0x6DD, 0x6DD), (0x70F, 0x70F), (0x1680, 0x1680),
   (0x180E, 0x180E), (0x2000, 0x200F), (0x2028, 0x202F), (0x205F, 0x2063), (0x206A, 0x206F),
   (0x2FF0, 0x2FFB), (0x3000, 0x3000), (0xD800, 0xF8FF), (0xFDD0, 0xFDEF), (0xFEFF, 0xFEFF),
   (0xFFF9, 0xFFFF), (0x1D173, 0x1D17A), (0x1FFFE, 0x1FFFF), (0x2FFFE, 0x2FFFF),
   (0x3FFFE, 0x3FFFF), (0x4FFFE, 0x4FFFF), (0x5FFFE, 0x5FFFF), (0x6FFFE, 0x6FFFF),
   (0x7FFFE, 0x7FFFF), (0x8FFFE, 0x8FFFF), (0x9FFFE, 0x9FFFF), (0xAFFFE, 0xAFFFF),
   (0xBFFFE, 0xBFFFF), (0xCFFFE, 0xCFFFF), (0xDFFFE, 0xDFFFF), (0xE0001, 0xE0001),
   (0xE0020, 0xE007F), (0xEFFFE, 0x10FFFF)]

/-- Characters of right-to-left scripts (table D.1). -/
def rightToLeftRanges : List (Nat × Nat) :=
  [(0x5BE, 0x5BE), (0x5C0, 0x5C0), (0x5C3, 0x5C3), (0x5D0, 0x5EA), (0x5F0, 0x5F4), (0x61B, 0x61B),
   (0x61F, 0x61F), (0x621, 0x63A), (0x640, 0x64A), (0x66D, 0x66F), (0x671, 0x6D5), (0x6DD, 0x6DD),
   (0x6E5, 0x6E6), (0x6FA, 0x6FE), (0x700, 0x70D), (0x710, 0x710), (0x712, 0x72C), (0x780, 0x7A5),
   (0x7B1, 0x7B1), (0x200F, 0x200F), (0xFB1D, 0xFB1D), (0xFB1F, 0xFB28), (0xFB2A, 0xFB36),
   (0xFB38, 0xFB3C), (0xFB3E, 0xFB3E), (0xFB40, 0xFB41), (0xFB43, 0xFB44), (0xFB46, 0xFBB1),
   (0xFBD3, 0xFD3D), (0xFD50, 0xFD8F), (0xFD92, 0xFDC7), (0xFDF0, 0xFDFC), (0xFE70, 0xFE74),
   (0xFE76, 0xFEFC)]

/-- Characters of left-to-right scripts (table D.2). -/
def leftToRightRanges : List (Nat × Nat) :=
  [(0x41, 0x5A), (0x61, 0x7A), (0xAA, 0xAA), (0xB5, 0xB5), (0xBA, 0xBA), (0xC0, 0xD6),
   (0xD8, 0xF6), (0xF8, 0x220), (0x222, 0x233), (0x250, 0x2AD), (0x2B0, 0x2B8), (0x2BB, 0x2C1),
   (0x2D0, 0x2D1), (0x2E0, 0x2E4), (0x2EE, 0x2EE), (0x37A, 0x37A), (0x386, 0x386), (0x388, 0x38A),
   (0x38C, 0x38C), (0x38E, 0x3A1), (0x3A3, 0x3CE), (0x3D0, 0x3F5), (0x400, 0x482), (0x48A, 0x4CE),
   (0x4D0, 0x4F5), (0x4F8, 0x4F9), (0x500, 0x50F), (0x531, 0x556), (0x559, 0x55F), (0x561, 0x587),
   (0x589, 0x589), (0x903, 0x903), (0x905, 0x939), (0x93D, 0x940), (0x949, 0x94C), (0x950, 0x950),
   (0x958, 0x961), (0x964, 0x970), (0x982, 0x983), (0x985, 0x98C), (0x98F, 0x990), (0x993, 0x9A8),
   (0x9AA, 0x9B0), (0x9B2, 0x9B2), (0x9B6, 0x9B9), (0x9BE, 0x9C0), (0x9C7, 0x9C8), (0x9CB, 0x9CC),
   (0x9D7, 0x9D7), (0x9DC, 0x9DD), (0x9DF, 0x9E1), (0x9E6, 0x9F1), (0x9F4, 0x9FA), (0xA05, 0xA0A),
   (0xA0F, 0xA10), (0xA13, 0xA28), (0xA2A, 0xA30), (0xA32, 0xA33), (0xA35, 0xA36), (0xA38, 0xA39),
   (0xA3E, 0xA40), (0xA59, 0xA5C), (0xA5E, 0xA5E), (0xA66, 0xA6F), (0xA72, 0xA74), (0xA83, 0xA83),
   (0xA85, 0xA8B), (0xA8D, 0xA8D), (0xA8F, 0xA91), (0xA93, 0xAA8), (0xAAA, 0xAB0), (0xAB2, 0xAB3),
   (0xAB5, 0xAB9), (0xABD, 0xAC0), (0xAC9, 0xAC9), (0xACB, 0xACC), (0xAD0, 0xAD0), (0xAE0, 0xAE0),
   (0xAE6, 0xAEF), (0xB02, 0xB03), (0xB05, 0xB0C), (0xB0F, 0xB10), (0xB13, 0xB28), (0xB2A, 0xB30),
   (0xB32, 0xB33), (0xB36, 0xB39), (0xB3D, 0xB3E), (0xB40, 0xB40), (0xB47, 0xB48), (0xB4B, 0xB4C),
   (0xB57, 0xB57), (0xB5C, 0xB5D), (0xB5F, 0xB61), (0xB66, 0xB70), (0xB83, 0xB83), (0xB85, 0xB8A),
   (0xB8E, 0xB90), (0xB92, 0xB95), (0xB99, 0xB9A), (0xB9C, 0xB9C), (0xB9E, 0xB9F), (0xBA3, 0xBA4),
   (0xBA8, 0xBAA), (0xBAE, 0xBB5), (0xBB7, 0xBB9), (0xBBE, 0xBBF), (0xBC1, 0xBC2), (0xBC6, 0xBC8),
   (0xBCA, 0xBCC), (0xBD7, 0xBD7), (0xBE7, 0xBF2), (0xC01, 0xC03), (0xC05, 0xC0C), (0xC0E, 0xC10),
   (0xC12, 0xC28), (0xC2A, 0xC33), (0xC35, 0xC39), (0xC41, 0xC44), (0xC60, 0xC61), (0xC66, 0xC6F),
   (0xC82, 0xC83), (0xC85, 0xC8C), (0xC8E, 0xC90), (0xC92, 0xCA8), (0xCAA, 0xCB3), (0xCB5, 0xCB9),
   (0xCBE, 0xCBE), (0xCC0, 0xCC4), (0xCC7, 0xCC8), (0xCCA, 0xCCB), (0xCD5, 0xCD6), (0xCDE, 0xCDE),
   (0xCE0, 0xCE1), (0xCE6, 0xCEF), (0xD02, 0xD03), (0xD05, 0xD0C), (0xD0E, 0xD10), (0xD12, 0xD28),
   (0xD2A, 0xD39), (0xD3E, 0xD40), (0xD46, 0xD48), (0xD4A, 0xD4C), (0xD57, 0xD57), (0xD60, 0xD61),
   (0xD66, 0xD6F), (0xD82, 0xD83), (0xD85, 0xD96), (0xD9A, 0xDB1), (0xDB3, 0xDBB), (0xDBD, 0xDBD),
   (0xDC0, 0xDC6), (0xDCF, 0xDD1), (0xDD8, 0xDDF), (0xDF2, 0xDF4), (0xE01, 0xE30), (0xE32, 0xE33),
   (0xE40, 0xE46), (0xE4F, 0xE5B), (0xE81, 0xE82), (0xE84, 0xE84), (0xE87, 0xE88), (0xE8A, 0xE8A),
   (0xE8D, 0xE8D), (0xE94, 0xE97), (0xE99, 0xE9F), (0xEA1, 0xEA3), (0xEA5, 0xEA5), (0xEA7, 0xEA7),
   (0xEAA, 0xEAB), (0xEAD, 0xEB0), (0xEB2, 0xEB3), (0xEBD, 0xEBD), (0xEC0, 0xEC4), (0xEC6, 0xEC6),
   (0xED0, 0xED9), (0xEDC, 0xEDD), (0xF00, 0xF17), (0xF1A, 0xF34), (0xF36, 0xF36), (0xF38, 0xF38),
   (0xF3E, 0xF47), (0xF49, 0xF6A), (0xF7F, 0xF7F), (0xF85, 0xF85), (0xF88, 0xF8B), (0xFBE, 0xFC5),
   (0xFC7, 0xFCC), (0xFCF, 0xFCF), (0x1000, 0x1021), (0x1023, 0x1027), (0x1029, 0x102A),
   (0x102C, 0x102C), (0x1031, 0x1031), (0x1038, 0x1038), (0x1040, 0x1057), (0x10A0, 0x10C5),
   (0x10D0, 0x10F8), (0x10FB, 0x10FB), (0x1100, 0x1159), (0x115F, 0x11A2), (0x11A8, 0x11F9),
   (0x1200, 0x1206), (0x1208, 0x1246), (0x1248, 0x1248), (0x124A, 0x124D), (0x1250, 0x1256),
   (0x1258, 0x1258), (0x125A, 0x125D), (0x1260, 0x1286), (0x1288, 0x1288), (0x128A, 0x128D),
   (0x1290, 0x12AE), (0x12B0, 0x12B0), (0x12B2, 0x12B5), (0x12B8, 0x12BE), (0x12C0, 0x12C0),
   (0x12C2, 0x12C5), (0x12C8, 0x12CE), (0x12D0, 0x12D6), (0x12D8, 0x12EE), (0x12F0, 0x130E),
   (0x1310, 0x1310), (0x1312, 0x1315), (0x1318, 0x131E), (0x1320, 0x1346), (0x1348, 0x135A),
   (0x1361, 0x137C), (0x13A0, 0x13F4), (0x1401, 0x1676), (0x1681, 0x169A), (0x16A0, 0x16F0),
   (0x1700, 0x170C), (0x170E, 0x1711), (0x1720, 0x1731), (0x1735, 0x1736), (0x1740, 0x1751),
   (0x1760, 0x176C), (0x176E, 0x1770), (0x1780, 0x17B6), (0x17BE, 0x17C5), (0x17C7, 0x17C8),
   (0x17D4, 0x17DA), (0x17DC, 0x17DC), (0x17E0, 0x17E9), (0x1810, 0x1819), (0x1820, 0x1877),
   (0x1880, 0x18A8), (0x1E00, 0x1E9B), (0x1EA0, 0x1EF9), (0x1F00, 0x1F15), (0x1F18, 0x1F1D),
   (0x1F20, 0x1F45), (0x1F48, 0x1F4D), (0x1F50, 0x1F57), (0x1F59, 0x1F59), (0x1F5B, 0x1F5B),
   (0x1F5D, 0x1F5D), (0x1F5F, 0x1F7D), (0x1F80, 0x1FB4), (0x1FB6, 0x1FBC), (0x1FBE, 0x1FBE),
   (0x1FC2, 0x1FC4), (0x1FC6, 0x1FCC), (0x1FD0, 0x1FD3), (0x1FD6, 0x1FDB), (0x1FE0, 0x1FEC),
   (0x1FF2, 0x1FF4), (0x1FF6, 0x1FFC), (0x200E, 0x200E), (0x2071, 0x2071), (0x207F, 0x207F),
   (0x2102, 0x2102), (0x2107, 0x2107), (0x210A, 0x2113), (0x2115, 0x2115), (0x2119, 0x211D),
   (0x2124, 0x2124), (0x2126, 0x2126), (0x2128, 0x2128), (0x212A, 0x212D), (0x212F, 0x2131),
   (0x2133, 0x2139), (0x213D, 0x213F), (0x2145, 0x2149), (0x2160, 0x2183), (0x2336, 0x237A),
   (0x2395, 0x2395), (0x249C, 0x24E9), (0x3005, 0x3007), (0x3021, 0x3029), (0x3031, 0x3035),
   (0x3038, 0x303C), (0x3041, 0x3096), (0x309D, 0x309F), (0x30A1, 0x30FA), (0x30FC, 0x30FF),
   (0x3105, 0x312C), (0x3131, 0x318E), (0x3190, 0x31B7), (0x31F0, 0x321C), (0x3220, 0x3243),
   (0x3260, 0x327B), (0x327F, 0x32B0), (0x32C0, 0x32CB), (0x32D0, 0x32FE), (0x3300, 0x3376),
   (0x337B, 0x33DD), (0x33E0, 0x33FE), (0x3400, 0x4DB5), (0x4E00, 0x9FA5), (0xA000, 0xA48C),
   (0xAC00, 0xD7A3), (0xD800, 0xFA2D), (0xFA30, 0xFA6A), (0xFB00, 0xFB06), (0xFB13, 0xFB17),
   (0xFF21, 0xFF3A), (0xFF41, 0xFF5A), (0xFF66, 0xFFBE), (0xFFC2, 0xFFC7), (0xFFCA, 0xFFCF),
   (0xFFD2, 0xFFD7), (0xFFDA, 0xFFDC), (0x10300, 0x1031E), (0x10320, 0x10323), (0x10330, 0x1034A),
   (0x10400, 0x10425), (0x10428, 0x1044D), (0x1D000, 0x1D0F5), (0x1D100, 0x1D126),
   (0x1D12A, 0x1D166), (0x1D16A, 0x1D172), (0x1D183, 0x1D184), (0x1D18C, 0x1D1A9),
   (0x1D1AE, 0x1D1DD), (0x1D400, 0x1D454), (0x1D456, 0x1D49C), (0x1D49E, 0x1D49F),
   (0x1D4A2, 0x1D4A2), (0x1D4A5, 0x1D4A6), (0x1D4A9, 0x1D4AC), (0x1D4AE, 0x1D4B9),
   (0x1D4BB, 0x1D4BB), (0x1D4BD, 0x1D4C0), (0x1D4C2, 0x1D4C3), (0x1D4C5, 0x1D505),
   (0x1D507, 0x1D50A), (0x1D50D, 0x1D514), (0x1D516, 0x1D51C), (0x1D51E, 0x1D539),
   (0x1D53B, 0x1D53E), (0x1D540, 0x1D544), (0x1D546, 0x1D546), (0x1D54A, 0x1D550),
   (0x1D552, 0x1D6A3), (0x1D6A8, 0x1D7C9), (0x20000, 0x2A6D6), (0x2F800, 0x2FA1D),
   (0xF0000, 0xFFFFD), (0x100000, 0x10FFFD)]

/-- Whether a code point lies in one of the ranges. -/
def inRangeList (n : Nat) : List (Nat × Nat) → Bool
  | [] => false
  | (lo, hi) :: rest => (lo ≤ n && n ≤ hi) || inRangeList n rest

/-- The mapping of a character: nothing, its exception, or its lower case. -/
def prepMap (c : Char) : List Char :=
  if mappedOut.contains c.toNat then []
  else match mappingExceptions.find? (·.1 == c.toNat) with
    | some (_, s) => s.toList
    | none => Text.lowerChar c

/-- Prepares a label, or tells why it is refused. -/
def nameprep (label : List Char) : Except String (List Char) :=
  let mapped := label.flatMap prepMap
  match mapped.find? (fun c => inRangeList c.toNat prohibitedRanges) with
  | some c => .error ("Invalid character " ++ Text.quote c.toString)
  | none =>
    let rtl := fun (c : Char) => inRangeList c.toNat rightToLeftRanges
    if mapped.any rtl then
      if mapped.any (fun c => inRangeList c.toNat leftToRightRanges) then .error "Violation of BIDI requirement 2"
      else if !((mapped.head?.map rtl).getD false && (mapped.getLast?.map rtl).getD false) then
        .error "Violation of BIDI requirement 3"
      else .ok mapped
    else .ok mapped

theorem nameprep_allowed {label out : List Char} (h : nameprep label = .ok out) (c : Char)
    (hc : c ∈ out) : inRangeList c.toNat prohibitedRanges = false := by
  simp only [nameprep] at h
  split at h
  · cases h
  · rename_i hf
    rw [List.find?_eq_none] at hf
    split at h
    · split at h
      · cases h
      · split at h
        · cases h
        · cases h; simpa using hf c hc
    · cases h; simpa using hf c hc

end VCard.Charset
