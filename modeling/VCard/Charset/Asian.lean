import VCard.Charset.Tables.Jis
import VCard.Charset.Tables.Jis2004
import VCard.Charset.Tables.Gbk
import VCard.Charset.Tables.Uhc
import VCard.Charset.Tables.Big5
/-! The double-byte codecs of Japanese, Chinese and Korean text.

Each codec is its layouts over the coded character sets, with the codes it
treats otherwise than they do: vendor extensions (NEC and IBM rows of code page
932, the Hong Kong supplement of Big5, the private-use blocks of GB 18030), codes
it refuses, and the characters its encoder writes otherwise than by the first (or
last) of their codes. -/
namespace VCard.Charset

/-- The rows JIS X 0213 itself defines in its second plane. -/
def secondPlaneTrueRows : List Nat :=
  [1, 3, 4, 5, 8, 12, 13, 14, 15, 78, 79, 80, 81, 82, 83, 84, 85, 86, 87, 88, 89, 90, 91, 92, 93,
   94]

/-- GB 18030's four-byte ranges of the Basic Multilingual Plane. -/
def gbFourRanges : List (Nat × Option Nat) :=
  [(0, some 0x80), (36, some 0xA5), (38, some 0xA9), (45, some 0xB2), (50, some 0xB8),
   (81, some 0xD8), (89, some 0xE2), (95, some 0xEB), (96, some 0xEE), (100, some 0xF4),
   (103, some 0xF8), (104, some 0xFB), (105, some 0xFD), (109, some 0x102), (126, some 0x114),
   (133, some 0x11C), (148, some 0x12C), (172, some 0x145), (175, some 0x149),
   (179, some 0x14E), (208, some 0x16C), (306, some 0x1CF), (307, some 0x1D1),
   (308, some 0x1D3), (309, some 0x1D5), (310, some 0x1D7), (311, some 0x1D9),
   (312, some 0x1DB), (313, some 0x1DD), (341, some 0x1FA), (428, some 0x252),
   (443, some 0x262), (544, some 0x2C8), (545, some 0x2CC), (558, some 0x2DA),
   (741, some 0x3A2), (742, some 0x3AA), (749, some 0x3C2), (750, some 0x3CA),
   (805, some 0x402), (819, some 0x450), (820, some 0x452), (7922, some 0x2011),
   (7924, some 0x2017), (7925, some 0x201A), (7927, some 0x201E), (7934, some 0x2027),
   (7943, some 0x2031), (7944, some 0x2034), (7945, some 0x2036), (7950, some 0x203C),
   (8062, some 0x20AD), (8148, some 0x2104), (8149, some 0x2106), (8152, some 0x210A),
   (8164, some 0x2117), (8174, some 0x2122), (8236, some 0x216C), (8240, some 0x217A),
   (8262, some 0x2194), (8264, some 0x219A), (8374, some 0x2209), (8380, some 0x2210),
   (8381, some 0x2212), (8384, some 0x2216), (8388, some 0x221B), (8390, some 0x2221),
   (8392, some 0x2224), (8393, some 0x2226), (8394, some 0x222C), (8396, some 0x222F),
   (8401, some 0x2238), (8406, some 0x223E), (8416, some 0x2249), (8419, some 0x224D),
   (8424, some 0x2253), (8437, some 0x2262), (8439, some 0x2268), (8445, some 0x2270),
   (8482, some 0x2296), (8485, some 0x229A), (8496, some 0x22A6), (8521, some 0x22C0),
   (8603, some 0x2313), (8936, some 0x246A), (8946, some 0x249C), (9046, some 0x254C),
   (9050, some 0x2574), (9063, some 0x2590), (9066, some 0x2596), (9076, some 0x25A2),
   (9092, some 0x25B4), (9100, some 0x25BE), (9108, some 0x25C8), (9111, some 0x25CC),
   (9113, some 0x25D0), (9131, some 0x25E6), (9162, some 0x2607), (9164, some 0x260A),
   (9218, some 0x2641), (9219, some 0x2643), (11329, some 0x2E82), (11331, some 0x2E85),
   (11334, some 0x2E89), (11336, some 0x2E8D), (11346, some 0x2E98), (11361, some 0x2EA8),
   (11363, some 0x2EAB), (11366, some 0x2EAF), (11370, some 0x2EB4), (11372, some 0x2EB8),
   (11375, some 0x2EBC), (11389, some 0x2ECB), (11682, some 0x2FFC), (11686, some 0x3004),
   (11687, some 0x3018), (11692, some 0x301F), (11694, some 0x302A), (11714, some 0x303F),
   (11716, some 0x3094), (11723, some 0x309F), (11725, some 0x30F7), (11730, some 0x30FF),
   (11736, some 0x312A), (11982, some 0x322A), (11989, some 0x3232), (12102, some 0x32A4),
   (12336, some 0x3390), (12348, some 0x339F), (12350, some 0x33A2), (12384, some 0x33C5),
   (12393, some 0x33CF), (12395, some 0x33D3), (12397, some 0x33D6), (12510, some 0x3448),
   (12553, some 0x3474), (12851, some 0x359F), (12962, some 0x360F), (12973, some 0x361B),
   (13738, some 0x3919), (13823, some 0x396F), (13919, some 0x39D1), (13933, some 0x39E0),
   (14080, some 0x3A74), (14298, some 0x3B4F), (14585, some 0x3C6F), (14698, some 0x3CE1),
   (15583, some 0x4057), (15847, some 0x4160), (16318, some 0x4338), (16434, some 0x43AD),
   (16438, some 0x43B2), (16481, some 0x43DE), (16729, some 0x44D7), (17102, some 0x464D),
   (17122, some 0x4662), (17315, some 0x4724), (17320, some 0x472A), (17402, some 0x477D),
   (17418, some 0x478E), (17859, some 0x4948), (17909, some 0x497B), (17911, some 0x497E),
   (17915, some 0x4984), (17916, some 0x4987), (17936, some 0x499C), (17939, some 0x49A0),
   (17961, some 0x49B8), (18664, some 0x4C78), (18703, some 0x4CA4), (18814, some 0x4D1A),
   (18962, some 0x4DAF), (19043, some 0x9FA6), (33469, some 0xE76C), (33470, some 0xE7C8),
   (33471, some 0xE7E7), (33484, some 0xE815), (33485, some 0xE819), (33490, some 0xE81F),
   (33497, some 0xE827), (33501, some 0xE82D), (33505, some 0xE833), (33513, some 0xE83C),
   (33520, some 0xE844), (33536, some 0xE856), (33550, some 0xE865), (37845, some 0xF92D),
   (37921, some 0xF97A), (37948, some 0xF996), (38029, some 0xF9E8), (38038, some 0xF9F2),
   (38064, some 0xFA10), (38065, some 0xFA12), (38066, some 0xFA15), (38069, some 0xFA19),
   (38075, some 0xFA22), (38076, some 0xFA25), (38078, some 0xFA2A), (39108, some 0xFE32),
   (39109, some 0xFE45), (39113, some 0xFE53), (39114, some 0xFE58), (39115, some 0xFE67),
   (39116, some 0xFE6C), (39265, some 0xFF5F), (39394, some 0xFFE6)]

/-- EUC-KR letter bytes (after 0xA4) and their index among the initial letters. -/
def jamoInitial : List (Nat × Nat) :=
  [(0xA1, 0), (0xA2, 1), (0xA4, 2), (0xA7, 3), (0xA8, 4), (0xA9, 5), (0xB1, 6), (0xB2, 7),
   (0xB3, 8), (0xB5, 9), (0xB6, 10), (0xB7, 11), (0xB8, 12), (0xB9, 13), (0xBA, 14),
   (0xBB, 15), (0xBC, 16), (0xBD, 17), (0xBE, 18)]

/-- EUC-KR letter bytes (after 0xA4) and their index among the medial letters. -/
def jamoMedial : List (Nat × Nat) :=
  [(0xBF, 0), (0xC0, 1), (0xC1, 2), (0xC2, 3), (0xC3, 4), (0xC4, 5), (0xC5, 6), (0xC6, 7),
   (0xC7, 8), (0xC8, 9), (0xC9, 10), (0xCA, 11), (0xCB, 12), (0xCC, 13), (0xCD, 14),
   (0xCE, 15), (0xCF, 16), (0xD0, 17), (0xD1, 18), (0xD2, 19), (0xD3, 20)]

/-- EUC-KR letter bytes (after 0xA4) and their index among the final letters. -/
def jamoFinal : List (Nat × Nat) :=
  [(0xA1, 1), (0xA2, 2), (0xA3, 3), (0xA4, 4), (0xA5, 5), (0xA6, 6), (0xA7, 7), (0xA9, 8),
   (0xAA, 9), (0xAB, 10), (0xAC, 11), (0xAD, 12), (0xAE, 13), (0xAF, 14), (0xB0, 15),
   (0xB1, 16), (0xB2, 17), (0xB4, 18), (0xB5, 19), (0xB6, 20), (0xB7, 21), (0xB8, 22),
   (0xBA, 23), (0xBB, 24), (0xBC, 25), (0xBD, 26), (0xBE, 27)]

/-- The codec shift_jis. -/
def shiftJis : DoubleByte where
  name := "shift_jis"
  lowChanges := []
  high := ("\ufffe" ++ codeFill 0xFFFF 31 ++ "\ufffe" ++ codeRun 0xFF61 63 ++ codeFill 0xFFFF 11 ++ codeFill 0xFFFE 21)
  layouts := [.shiftJis jisX0208]
  overrides := []
  pairs := []
  wideErrors := []
  long := .none
  lastWins := false
  encodeExceptions := [(0xA5, [0x5C]), (0x203E, [0x7E])]

/-- The codec cp932. -/
def cp932 : DoubleByte where
  name := "cp932"
  lowChanges := []
  high := ("\x80" ++ codeFill 0xFFFF 31 ++ "\uf8f0" ++ codeRun 0xFF61 63 ++ codeFill 0xFFFF 29 ++ "\uf8f1\uf8f2\uf8f3")
  layouts := [.shiftJis jisX0208, .userArea]
  overrides := [(0x81, 0x60, "～∥"), (0x81, 0x7C, "－"), (0x81, 0x91, "￠￡"), (0x81, 0xCA, "￢"),
    (0x87, 0x40, "①②③④⑤⑥⑦⑧⑨⑩⑪⑫⑬⑭⑮⑯⑰⑱⑲⑳ⅠⅡⅢⅣⅤⅥⅦⅧⅨⅩ"), (0x87, 0x5F, "㍉㌔㌢㍍㌘㌧㌃㌶㍑㍗㌍㌦㌣㌫㍊㌻㎜㎝㎞㎎㎏㏄㎡"),
    (0x87, 0x7E, "㍻"), (0x87, 0x80, "〝〟№㏍℡㊤㊥㊦㊧㊨㈱㈲㈹㍾㍽㍼≒≡∫∮∑√⊥∠∟⊿∵∩∪"),
    (0xED, 0x40, "纊褜鍈銈蓜俉炻昱棈鋹曻彅丨仡仼伀伃伹佖侒侊侚侔俍偀倢俿倞偆偰偂傔僴僘兊兤冝冾凬刕劜劦勀勛匀匇匤卲厓厲叝﨎咜咊咩哿喆坙坥垬埈埇﨏"),
    (0xED, 0x80, "塚增墲夋奓奛奝奣妤妺孖寀甯寘寬尞岦岺峵崧嵓﨑嵂嵭嶸嶹巐弡弴彧德忞恝悅悊惞惕愠惲愑愷愰憘戓抦揵摠撝擎敎昀昕昻昉昮昞昤晥晗晙晴晳暙暠暲暿曺朎朗杦枻桒柀栁桄棏﨓楨﨔榘槢樰橫橆橳橾櫢櫤毖氿汜沆汯泚洄涇浯涖涬淏淸淲淼渹湜渧渼溿澈澵濵瀅瀇瀨炅炫焏焄煜煆煇凞燁燾犱"),
    (0xEE, 0x40, "犾猤猪獷玽珉珖珣珒琇珵琦琪琩琮瑢璉璟甁畯皂皜皞皛皦益睆劯砡硎硤硺礰礼神祥禔福禛竑竧靖竫箞精絈絜綷綠緖繒罇羡羽茁荢荿菇菶葈蒴蕓蕙"),
    (0xEE, 0x80, "蕫﨟薰蘒﨡蠇裵訒訷詹誧誾諟諸諶譓譿賰賴贒赶﨣軏﨤逸遧郞都鄕鄧釚釗釞釭釮釤釥鈆鈐鈊鈺鉀鈼鉎鉙鉑鈹鉧銧鉷鉸鋧鋗鋙鋐﨧鋕鋠鋓錥錡鋻﨨錞鋿錝錂鍰鍗鎤鏆鏞鏸鐱鑅鑈閒隆﨩隝隯霳霻靃靍靏靑靕顗顥飯飼餧館馞驎髙髜魵魲鮏鮱鮻鰀鵰鵫鶴鸙黑"),
    (0xEE, 0xEF, "ⅰⅱⅲⅳⅴⅵⅶⅷⅸⅹ￢￤＇＂"),
    (0xFA, 0x40, "ⅰⅱⅲⅳⅴⅵⅶⅷⅸⅹⅠⅡⅢⅣⅤⅥⅦⅧⅨⅩ￢￤＇＂㈱№℡∵纊褜鍈銈蓜俉炻昱棈鋹曻彅丨仡仼伀伃伹佖侒侊侚侔俍偀倢俿倞偆偰偂傔僴僘兊"),
    (0xFA, 0x80, "兤冝冾凬刕劜劦勀勛匀匇匤卲厓厲叝﨎咜咊咩哿喆坙坥垬埈埇﨏塚增墲夋奓奛奝奣妤妺孖寀甯寘寬尞岦岺峵崧嵓﨑嵂嵭嶸嶹巐弡弴彧德忞恝悅悊惞惕愠惲愑愷愰憘戓抦揵摠撝擎敎昀昕昻昉昮昞昤晥晗晙晴晳暙暠暲暿曺朎朗杦枻桒柀栁桄棏﨓楨﨔榘槢樰橫橆橳橾櫢櫤毖氿汜沆汯泚洄涇浯"),
    (0xFB, 0x40, "涖涬淏淸淲淼渹湜渧渼溿澈澵濵瀅瀇瀨炅炫焏焄煜煆煇凞燁燾犱犾猤猪獷玽珉珖珣珒琇珵琦琪琩琮瑢璉璟甁畯皂皜皞皛皦益睆劯砡硎硤硺礰礼神"),
    (0xFB, 0x80, "祥禔福禛竑竧靖竫箞精絈絜綷綠緖繒罇羡羽茁荢荿菇菶葈蒴蕓蕙蕫﨟薰蘒﨡蠇裵訒訷詹誧誾諟諸諶譓譿賰賴贒赶﨣軏﨤逸遧郞都鄕鄧釚釗釞釭釮釤釥鈆鈐鈊鈺鉀鈼鉎鉙鉑鈹鉧銧鉷鉸鋧鋗鋙鋐﨧鋕鋠鋓錥錡鋻﨨錞鋿錝錂鍰鍗鎤鏆鏞鏸鐱鑅鑈閒隆﨩隝隯霳霻靃靍靏靑靕顗顥飯飼餧館馞驎髙"),
    (0xFC, 0x40, "髜魵魲鮏鮱鮻鰀鵰鵫鶴鸙黑")]
  pairs := []
  wideErrors := []
  long := .none
  lastWins := false
  encodeExceptions := [(0xA2, [0x81, 0x91]), (0xA3, [0x81, 0x92]), (0xAC, [0x81, 0xCA]), (0x2016, [0x81, 0x61]),
    (0x2212, [0x81, 0x7C]), (0x301C, [0x81, 0x60])]

/-- The codec euc_jp. -/
def eucJp : DoubleByte where
  name := "euc_jp"
  lowChanges := []
  high := codeFill 0xFFFF 128
  layouts := [.euc jisX0208, .katakana]
  overrides := []
  pairs := []
  wideErrors := []
  long := .third jisX0212 [] []
  lastWins := false
  encodeExceptions := [(0xA5, [0x5C]), (0x203E, [0x7E])]

/-- The codec shift_jis_2004. -/
def shiftJis2004 : DoubleByte where
  name := "shift_jis_2004"
  lowChanges := [(0x5C, '¥'), (0x7E, '‾')]
  high := ("\ufffe" ++ codeFill 0xFFFF 31 ++ "\ufffe" ++ codeRun 0xFF61 63 ++ codeFill 0xFFFF 29 ++ "\ufffe\ufffe\ufffe")
  layouts := [.shiftJis jisX0213First, .shiftJisSecond jisX0213Second]
  overrides := [(0x81, 0x5F, "\x5c"), (0x81, 0xB0, "~")]
  pairs := [(0x82F5, "か゚"), (0x82F6, "き゚"), (0x82F7, "く゚"), (0x82F8, "け゚"), (0x82F9, "こ゚"),
    (0x8397, "カ゚"), (0x8398, "キ゚"), (0x8399, "ク゚"), (0x839A, "ケ゚"), (0x839B, "コ゚"),
    (0x839C, "セ゚"), (0x839D, "ツ゚"), (0x839E, "ト゚"), (0x83F6, "ㇷ゚"), (0x8663, "æ\u0300"),
    (0x8667, "ɔ\u0300"), (0x8668, "ɔ\u0301"), (0x8669, "ʌ\u0300"), (0x866A, "ʌ\u0301"),
    (0x866B, "ə\u0300"), (0x866C, "ə\u0301"), (0x866D, "ɚ\u0300"), (0x866E, "ɚ\u0301"),
    (0x8685, "˩˥"), (0x8686, "˥˩")]
  wideErrors := []
  long := .none
  lastWins := false
  encodeExceptions := []

/-- The codec shift_jisx0213. -/
def shiftJisX0213 : DoubleByte where
  name := "shift_jisx0213"
  lowChanges := [(0x5C, '¥'), (0x7E, '‾')]
  high := ("\ufffe" ++ codeFill 0xFFFF 31 ++ "\ufffe" ++ codeRun 0xFF61 63 ++ codeFill 0xFFFF 29 ++ "\ufffe\ufffe\ufffe")
  layouts := [.shiftJis jisX0213First, .shiftJisSecond jisX0213Second]
  overrides := [(0x81, 0x5F, "\x5c"), (0x81, 0xB0, "~"), (0x87, 0x9F, " "), (0x88, 0x9E, " "),
    (0x98, 0x73, " "), (0x98, 0x9E, " "), (0xEA, 0xA5, " "), (0xEF, 0xF8, "     "),
    (0xFC, 0x5A, "鬝")]
  pairs := [(0x82F5, "か゚"), (0x82F6, "き゚"), (0x82F7, "く゚"), (0x82F8, "け゚"), (0x82F9, "こ゚"),
    (0x8397, "カ゚"), (0x8398, "キ゚"), (0x8399, "ク゚"), (0x839A, "ケ゚"), (0x839B, "コ゚"),
    (0x839C, "セ゚"), (0x839D, "ツ゚"), (0x839E, "ト゚"), (0x83F6, "ㇷ゚"), (0x8663, "æ\u0300"),
    (0x8667, "ɔ\u0300"), (0x8668, "ɔ\u0301"), (0x8669, "ʌ\u0300"), (0x866A, "ʌ\u0301"),
    (0x866B, "ə\u0300"), (0x866C, "ə\u0301"), (0x866D, "ɚ\u0300"), (0x866E, "ɚ\u0301"),
    (0x8685, "˩˥"), (0x8686, "˥˩")]
  wideErrors := [0x879F, 0x889E, 0x9873, 0x989E, 0xEAA5, 0xEFF8, 0xEFF9, 0xEFFA, 0xEFFB, 0xEFFC]
  long := .none
  lastWins := false
  encodeExceptions := []

/-- The codec euc_jis_2004. -/
def eucJis2004 : DoubleByte where
  name := "euc_jis_2004"
  lowChanges := []
  high := codeFill 0xFFFF 128
  layouts := [.euc jisX0213First, .katakana]
  overrides := []
  pairs := [(0xA4F7, "か゚"), (0xA4F8, "き゚"), (0xA4F9, "く゚"), (0xA4FA, "け゚"), (0xA4FB, "こ゚"),
    (0xA5F7, "カ゚"), (0xA5F8, "キ゚"), (0xA5F9, "ク゚"), (0xA5FA, "ケ゚"), (0xA5FB, "コ゚"),
    (0xA5FC, "セ゚"), (0xA5FD, "ツ゚"), (0xA5FE, "ト゚"), (0xA6F8, "ㇷ゚"), (0xABC4, "æ\u0300"),
    (0xABC8, "ɔ\u0300"), (0xABC9, "ɔ\u0301"), (0xABCA, "ʌ\u0300"), (0xABCB, "ʌ\u0301"),
    (0xABCC, "ə\u0300"), (0xABCD, "ə\u0301"), (0xABCE, "ɚ\u0300"), (0xABCF, "ɚ\u0301"),
    (0xABE5, "˩˥"), (0xABE6, "˥˩")]
  wideErrors := []
  long := .third jisX0213Second secondPlaneTrueRows []
  lastWins := false
  encodeExceptions := []

/-- The codec euc_jisx0213. -/
def eucJisX0213 : DoubleByte where
  name := "euc_jisx0213"
  lowChanges := []
  high := codeFill 0xFFFF 128
  layouts := [.euc jisX0213First, .katakana]
  overrides := [(0xAE, 0xA1, " "), (0xAF, 0xFE, " "), (0xCF, 0xD4, " "), (0xCF, 0xFE, " "), (0xF4, 0xA7, " "),
    (0xFE, 0xFA, "     ")]
  pairs := [(0xA4F7, "か゚"), (0xA4F8, "き゚"), (0xA4F9, "く゚"), (0xA4FA, "け゚"), (0xA4FB, "こ゚"),
    (0xA5F7, "カ゚"), (0xA5F8, "キ゚"), (0xA5F9, "ク゚"), (0xA5FA, "ケ゚"), (0xA5FB, "コ゚"),
    (0xA5FC, "セ゚"), (0xA5FD, "ツ゚"), (0xA5FE, "ト゚"), (0xA6F8, "ㇷ゚"), (0xABC4, "æ\u0300"),
    (0xABC8, "ɔ\u0300"), (0xABC9, "ɔ\u0301"), (0xABCA, "ʌ\u0300"), (0xABCB, "ʌ\u0301"),
    (0xABCC, "ə\u0300"), (0xABCD, "ə\u0301"), (0xABCE, "ɚ\u0300"), (0xABCF, "ɚ\u0301"),
    (0xABE5, "˩˥"), (0xABE6, "˥˩")]
  wideErrors := [0xAEA1, 0xAFFE, 0xCFD4, 0xCFFE, 0xF4A7, 0xFEFA, 0xFEFB, 0xFEFC, 0xFEFD, 0xFEFE]
  long := .third jisX0213Second secondPlaneTrueRows [(93, 27, '鬝')]
  lastWins := false
  encodeExceptions := [(0x7626, []), (0x7E6B, []), (0x9B1C, [])]

/-- The codec gb2312. -/
def gb2312 : DoubleByte where
  name := "gb2312"
  lowChanges := []
  high := codeFill 0xFFFF 128
  layouts := [.direct gbkGrid 0xA1 0xFE 0xA1 0xFE]
  overrides := [(0xA1, 0xA4, "・"), (0xA1, 0xAA, "\u2015"), (0xA2, 0xA1, "          "),
    (0xA6, 0xE0, "            "), (0xA6, 0xEE, "     "), (0xA6, 0xF4, "  "), (0xA8, 0xBB, " "),
    (0xA8, 0xBD, "  "), (0xA8, 0xC0, " ")]
  pairs := []
  wideErrors := []
  long := .none
  lastWins := false
  encodeExceptions := []

/-- The codec gbk. -/
def gbk : DoubleByte where
  name := "gbk"
  lowChanges := []
  high := codeFill 0xFFFF 128
  layouts := [.direct gbkGrid 0 255 0 255]
  overrides := []
  pairs := []
  wideErrors := []
  long := .none
  lastWins := false
  encodeExceptions := []

/-- The codec gb18030. -/
def gb18030 : DoubleByte where
  name := "gb18030"
  lowChanges := []
  high := codeFill 0xFFFF 128
  layouts := [.direct gbkGrid 0 255 0 255]
  overrides := [(0xA1, 0x40, codeRun 0xE4C6 63),
    (0xA1, 0x80, codeRun 0xE505 33),
    (0xA2, 0x40, codeRun 0xE526 63),
    (0xA2, 0x80, codeRun 0xE565 33),
    (0xA2, 0xAB, codeRun 0xE766 6), (0xA2, 0xE3, "€\ue76d"),
    (0xA2, 0xEF, "\ue76e\ue76f"), (0xA2, 0xFD, "\ue770\ue771"),
    (0xA3, 0x40, codeRun 0xE586 63),
    (0xA3, 0x80, codeRun 0xE5C5 33),
    (0xA4, 0x40, codeRun 0xE5E6 63),
    (0xA4, 0x80, codeRun 0xE625 33),
    (0xA4, 0xF4, codeRun 0xE772 11),
    (0xA5, 0x40, codeRun 0xE646 63),
    (0xA5, 0x80, codeRun 0xE685 33),
    (0xA5, 0xF7, codeRun 0xE77D 8),
    (0xA6, 0x40, codeRun 0xE6A6 63),
    (0xA6, 0x80, codeRun 0xE6E5 33),
    (0xA6, 0xB9, codeRun 0xE785 8),
    (0xA6, 0xD9, codeRun 0xE78D 7), (0xA6, 0xEC, "\ue794\ue795"),
    (0xA6, 0xF3, "\ue796"),
    (0xA6, 0xF6, codeRun 0xE797 9),
    (0xA7, 0x40, codeRun 0xE706 63),
    (0xA7, 0x80, codeRun 0xE745 33),
    (0xA7, 0xC2, codeRun 0xE7A0 15),
    (0xA7, 0xF2, codeRun 0xE7AF 13),
    (0xA8, 0x96, codeRun 0xE7BC 11),
    (0xA8, 0xBC, "\ue7c7"), (0xA8, 0xBF, "ǹ"), (0xA8, 0xC1, "\ue7c9\ue7ca\ue7cb\ue7cc"),
    (0xA8, 0xEA, codeRun 0xE7CD 21),
    (0xA9, 0x58, "\ue7e2"), (0xA9, 0x5B, "\ue7e3"), (0xA9, 0x5D, "\ue7e4\ue7e5\ue7e6"),
    (0xA9, 0x89, "〾⿰⿱⿲⿳⿴⿵⿶⿷⿸⿹⿺⿻"),
    (0xA9, 0x97, codeRun 0xE7F4 13),
    (0xA9, 0xF0, codeRun 0xE801 15),
    (0xAA, 0xA1, codeRun 0xE000 94),
    (0xAB, 0xA1, codeRun 0xE05E 94),
    (0xAC, 0xA1, codeRun 0xE0BC 94),
    (0xAD, 0xA1, codeRun 0xE11A 94),
    (0xAE, 0xA1, codeRun 0xE178 94),
    (0xAF, 0xA1, codeRun 0xE1D6 94),
    (0xD7, 0xFA, "\ue810\ue811\ue812\ue813\ue814"),
    (0xF8, 0xA1, codeRun 0xE234 94),
    (0xF9, 0xA1, codeRun 0xE292 94),
    (0xFA, 0xA1, codeRun 0xE2F0 94),
    (0xFB, 0xA1, codeRun 0xE34E 94),
    (0xFC, 0xA1, codeRun 0xE3AC 94),
    (0xFD, 0xA1, codeRun 0xE40A 94),
    (0xFE, 0x50, "⺁\ue816\ue817\ue818⺄㑳㑇⺈⺋\ue81e㖞㘚㘎⺌⺗㥮㤘\ue826㧏㧟㩳㧐\ue82b\ue82c㭎㱮㳠⺧\ue831\ue832⺪䁖䅟⺮䌷⺳⺶⺷\ue83b䎱䎬⺻䏝䓖䙡䙌\ue843"),
    (0xFE, 0x80, ("䜣䜩䝼䞍⻊䥇䥺䥽䦂䦃䦅䦆䦟䦛䦷䦶\ue854\ue855䲣䲟䲠䲡䱷䲢䴓䴔䴕䴖䴗䴘䴙䶮\ue864" ++ codeRun 0xE468 94))]
  pairs := []
  wideErrors := []
  long := .gbFour gbFourRanges
  lastWins := false
  encodeExceptions := []

/-- The codec euc_kr. -/
def eucKr : DoubleByte where
  name := "euc_kr"
  lowChanges := []
  high := codeFill 0xFFFF 128
  layouts := [.direct uhcGrid 0xA1 0xFE 0xA1 0xFE]
  overrides := []
  pairs := []
  wideErrors := []
  long := .jamo jamoInitial jamoMedial jamoFinal
  lastWins := false
  encodeExceptions := [(0x3164, [0xA4, 0xD4])]

/-- The codec cp949. -/
def cp949 : DoubleByte where
  name := "cp949"
  lowChanges := []
  high := codeFill 0xFFFF 128
  layouts := [.direct uhcGrid 0 255 0 255]
  overrides := []
  pairs := []
  wideErrors := []
  long := .none
  lastWins := false
  encodeExceptions := []

/-- The codec big5. -/
def big5 : DoubleByte where
  name := "big5"
  lowChanges := []
  high := codeFill 0xFFFF 128
  layouts := [.direct big5Grid 0 255 0 255]
  overrides := []
  pairs := []
  wideErrors := []
  long := .none
  lastWins := true
  encodeExceptions := []

/-- The codec cp950. -/
def cp950 : DoubleByte where
  name := "cp950"
  lowChanges := []
  high := codeFill 0xFFFF 128
  layouts := [.direct big5Grid 0 255 0 255]
  overrides := [(0xA1, 0x45, "\u2027"), (0xA1, 0x4E, "﹑"), (0xA1, 0xC2, "¯"), (0xA1, 0xE3, "～"),
    (0xA1, 0xF2, "⊕⊙"), (0xA2, 0x41, "∕﹨"), (0xA2, 0x44, "￥"), (0xA2, 0x46, "￠￡"),
    (0xA3, 0xE1, "€"), (0xF9, 0xD6, "碁銹裏墻恒粧嫺╔╦╗╠╬╣╚╩╝╒╤╕╞╪╡╘╧╛╓╥╖╟╫╢╙╨╜║═╭╮╰╯▓")]
  pairs := []
  wideErrors := []
  long := .none
  lastWins := false
  encodeExceptions := [(0xA2, [0xA2, 0x46]), (0xA3, [0xA2, 0x47]), (0xA5, [0xA2, 0x44]), (0x2022, [0xA1, 0x45]),
    (0x203E, [0xA1, 0xC2]), (0x223C, [0xA1, 0xE3]), (0x2609, [0xA1, 0xF3]),
    (0x2641, [0xA1, 0xF2]), (0x5341, [0xA4, 0x51]), (0x5345, [0xA4, 0xCA]),
    (0xFF64, [0xA1, 0x4E])]

/-- The codec big5hkscs. -/
def big5Hkscs : DoubleByte where
  name := "big5hkscs"
  lowChanges := []
  high := codeFill 0xFFFF 128
  layouts := [.direct big5Grid 0 255 0 255]
  overrides := [(0x87, 0x40, "䏰䰲䘃䖦䕸𧉧䵷䖳𧲱䳢𧳅㮕䜶䝄䱇䱀𤊿𣘗𧍒𦺋𧃒䱗𪍑䝏䗚䲅𧱬䴇䪤䚡𦬣爥𥩔𡩣𣸆𣽡晍囻"), (0x87, 0x67, "綕夝𨮹㷴霴𧯯寛𡵞媤㘥𩺰嫑宷峼杮薓𩥅瑡璝"),
    (0x88, 0x40, "㇀㇁㇂㇃㇄𠄌㇅𠃑𠃍㇆㇇𠃋𡿨㇈𠃊㇉㇊㇋㇌𠄎㇍㇎ĀÁǍÀĒÉĚÈŌÓǑÒ"), (0x88, 0x63, "Ế"),
    (0x88, 0x65, "ỀÊāáǎàɑēéěèīíǐìōóǒòūúǔùǖǘǚ"), (0x88, 0xA1, "ǜü"), (0x88, 0xA4, "ế"),
    (0x88, 0xA6, "ềêɡ⏚⏛"), (0x89, 0x40, "𪎩𡅅"), (0x89, 0x43, "攊"), (0x89, 0x46, "丽滝鵎釟"),
    (0x89, 0x4C, "𧜵撑会伨侨兖兴农凤务动医华发变团声处备夲头学实実岚庆总斉柾栄桥济炼电纤纬纺织经统缆缷艺苏药视设询车轧轮"),
    (0x89, 0xA1, "琑糼緍楆竉刧"), (0x89, 0xAB, "醌碸酞肼"), (0x89, 0xB0, "贋胶𠧧"),
    (0x89, 0xB5, "肟黇䳍鷉鸌䰾𩷶𧀎鸊𪄳㗁"), (0x89, 0xC1, "溚舾甙"),
    (0x89, 0xC5, "䤑马骏龙禇𨑬𡷊𠗐𢫦两亁亀亇亿仫伷㑌侽㹈倃傈㑽㒓㒥円夅凛凼刅争剹劐匧㗇厩㕑厰㕓参吣㕭㕲㚁咓咣咴咹哐哯唘唣唨㖘唿㖥㖿嗗㗅"),
    (0x8A, 0x40, "𧶄唥"), (0x8A, 0x43, "𠱂𠴕𥄫喐𢳆㧬𠍁蹆𤶸𩓥䁓𨂾睺𢰸㨴䟕𨅝𦧲𤷪擝𠵼𠾴𠳕𡃴撍蹾𠺖𠰋𠽤𢲩𨉖𤓓"),
    (0x8A, 0x64, "𠵆𩩍𨃩䟴𤺧𢳂骲㩧𩗴㿭㔆𥋇𩟔𧣈𢵄鵮頕"), (0x8A, 0x76, "䏙𦂥撴哣𢵌𢯊𡁷㧻𡁯"), (0x8A, 0xA1, "𦛚𦜖𧦠擪𥁒𠱃蹨𢆡𨭌𠜱"),
    (0x8A, 0xAC, "䠋𠆩㿺塳𢶍"), (0x8A, 0xB2, "𤗈𠓼𦂗𠽌𠶖啹䂻䎺"), (0x8A, 0xBB, "䪴𢩦𡂝膪飵𠶜捹㧾𢝵跀嚡摼㹃"),
    (0x8A, 0xC9, "𪘁𠸉𢫏𢳉"), (0x8A, 0xCE, "𡃈𣧂㦒㨆𨊛㕸𥹉𢃇噒𠼱𢲲𩜠㒼氽𤸻"),
    (0x8A, 0xDF, "𧕴𢺋𢈈𪙛𨳍𠹺𠰴𦠜羓𡃏𢠃𢤹㗻𥇣𠺌𠾍𠺪㾓𠼰𠵇𡅏𠹌"), (0x8A, 0xF6, "𠺫𠮩𠵈𡃀𡄽㿹𢚖搲𠾭"),
    (0x8B, 0x40, "𣏴𧘹𢯎𠵾𠵿𢱑𢱕㨘𠺘𡃇𠼮𪘲𦭐𨳒𨶙𨳊閪哌苄喹"),
    (0x8B, 0x55, "𩻃鰦骶𧝞𢷮煀腭胬尜𦕲脴㞗卟𨂽醶𠻺𠸏𠹷𠻻㗝𤷫㘉𠳖嚯𢞵𡃉𠸐𠹸𡁸𡅈𨈇𡑕𠹹𤹐𢶤婔𡀝𡀞𡃵𡃶垜𠸑"),
    (0x8B, 0xA1, "𧚔𨋍𠾵𠹻𥅾㜃𠾶𡆀𥋘𪊽𤧚𡠺𤅷𨉼墙剨㘚𥜽箲孨䠀䬬鼧䧧鰟鮍𥭴𣄽嗻㗲嚉丨夂𡯁屮靑𠂆乛亻㔾尣彑忄㣺扌攵歺氵氺灬爫丬犭𤣩罒礻糹罓𦉪㓁"),
    (0x8B, 0xDE, "𦍋耂肀𦘒𦥑卝衤见𧢲讠贝钅镸长门𨸏韦页风飞饣𩠐鱼鸟黄歯龜丷𠂇阝户钢"),
    (0x8C, 0x40, "倻淾𩱳龦㷉袏𤅎灷峵䬠𥇍㕙𥴰愢𨨲辧釶熑朙玺𣊁𪄇㲋𡦀䬐磤琂冮𨜏䀉橣𪊺䈣蘏𠩯稪𩥇𨫪靕灍匤𢁾鏴盙𨧣龧矝亣俰傼丯众龨吴綋墒壐𡶶庒庙忂𢜒斋"),
    (0x8C, 0xA1, "𣏹椙橃𣱣泿"), (0x8C, 0xA7, "爀𤔅玌㻛𤨓嬕璹讃𥲤𥚕窓篬糃繬苸薗龩袐龪躹龫迏蕟駠鈡龬𨶹𡐿䁱䊢娚"),
    (0x8C, 0xC9, "顨杫䉶圽"), (0x8C, 0xCE, "藖𤥻芿𧄍䲁𦵴嵻𦬕𦾾龭龮宖龯曧繛湗秊㶈䓃𣉖𢞖䎚䔶"),
    (0x8C, 0xE6, "峕𣬚諹屸㴒𣕑嵸龲煗䕘𤃬𡸣䱷㥸㑊𠆤𦱁諌侴𠈹妿腬顖𩣺弻"), (0x8D, 0x40, "𠮟"),
    (0x8D, 0x42, "𢇁𨥭䄂䚻𩁹㼇龳𪆵䃸㟖䛷𦱆䅼𨚲𧏿䕭㣔𥒚䕡䔛䶉䱻䵶䗪㿈𤬏㙡䓞䒽䇭崾嵈嵖㷼㠏嶤嶹㠠㠸幂庽弥徃㤈㤔㤿㥍惗愽峥㦉憷憹懏㦸戬抐拥挘㧸嚱"),
    (0x8D, 0xA1, "㨃揢揻搇摚㩋擀崕嘡龟㪗斆㪽旿晓㫲暒㬢朖㭂枤栀㭘桊梄㭲㭱㭻椉楃牜楤榟榅㮼槖㯝橥橴橱檂㯬檙㯲檫檵櫔櫶殁毁毪汵沪㳋洂洆洦涁㳯涤涱渕渘温溆𨧀溻滢滚齿滨滩漤漴㵆𣽁澁澾㵪㵵熷岙㶊瀬㶑灐灔灯灿炉𠌥䏁㗱𠻘"),
    (0x8E, 0x40, "𣻗垾𦻓焾𥟠㙎榢𨯩孴穉𥣡𩓙穥穽𥦬窻窰竂竃燑𦒍䇊竚竝竪䇯咲𥰁笋筕笩𥌎𥳾箢筯莜𥮴𦱿篐萡箒"), (0x8E, 0x6A, "𥴠㶭𥱥蒒篺"),
    (0x8E, 0x70, "簵𥳁籄粃𤢂粦晽𤕸糉糇糦籴糳糵"), (0x8E, 0xA1, "繧䔝𦹄絝𦻖璍綉綫焵綳"), (0x8E, 0xAC, "𤁗𦀩緤㴓緵𡟹緥𨍭"),
    (0x8E, 0xB5, "𦄡𦅚繮纒䌫鑬縧罀罁罇礶𦋐駡羗𦍑羣𡙡𠁨䕜𣝦䔃𨌺翺𦒉"), (0x8E, 0xCE, "耈耝"),
    (0x8E, 0xD1, "耯𪂇𦳃耻耼聡𢜔䦉𦘦𣷣𦛨朥肧𨩈脇脚墰𢛶汿𦒘𤾸擧𡒊舘𡡞橓𤩥𤪕䑺舩𠬍𦩒𣵾俹𡓽蓢荢𦬊𤦧𣔰𡝳𣷸芪椛芳䇛"),
    (0x8F, 0x40, "蕋苐茚𠸖𡞴㛁𣅽𣕚艻苢茘𣺋𦶣𦬅𦮗𣗎㶿茝嗬莅䔋𦶥莬"), (0x8F, 0x58, "菓㑾𦻔橗蕚㒖𦹂𢻯葘𥯤葱㷓䓤檧葊𣲵祘"),
    (0x8F, 0x6A, "𦮖𦹷𦹃蓞"), (0x8F, 0x6F, "莑䒠蒓蓤𥲑䉀𥳀䕃蔴嫲𦺙䔧蕳䔖枿蘖"),
    (0x8F, 0xA1, "𨘥𨘻藁𧂈蘂𡖂𧃍䕫䕪蘨㙈𡢢号𧎚虾蝱𪃸蟮𢰧螱蟚蠏噡虬桖䘏衅衆𧗠𣶹𧗤衞袜䙛袴袵揁装睷𧜏覇覊"),
    (0x8F, 0xCD, "覧覼𨨥觧𧤤𧪽誜瞓釾誐𧩙竩𧬺𣾏䜓𧬸煼謌謟𥐰𥕥謿譌譍誩𤩺讐讛誯𡛟䘕衏貛𧵔𧶏貫㜥𧵓賖𧶘𧶽贒贃𡤐賛灜贑𤳉㻐"),
    (0x90, 0x40, "趩𨀂𡀔𤦊㭼𨆼𧄌竧躭躶軃鋔輙輭𨍥𨐒辥錃𪊟𠩐辳䤪𨧞𨔽𣶻廸𣉢迹𪀔𨚼𨔁𢌥㦀𦻗逷𨔼𧪾遡𨕬𨘋邨𨜓郄𨛦邮"),
    (0x90, 0x6E, "酧㫰醩釄粬𨤳𡺉鈎沟鉁鉢𥖹"), (0x90, 0x7B, "𨫆𣲛𨬌𥗛"),
    (0x90, 0xA1, "𠴱錬鍫𨫡𨯫炏嫃𨫢𨫥䥥鉄𨯬𨰹𨯿鍳鑛躼閅閦鐦閠濶䊹𢙺𨛘𡉼𣸮䧟氜陻隖䅬隣𦻕懚隶磵𨫠隽双䦡𦲸𠉴𦐐𩂯𩃥𤫑𡤕𣌊霱虂霶䨏䔽䖅𤫩灵孁霛"),
    (0x90, 0xDD, "𩇕靗孊𩇫靟鐥僐𣂷𣂼鞉鞟鞱鞾韀韒韠𥑬韮琜𩐳"), (0x90, 0xF2, "韵𩐝𧥺䫑頴頳顋顦㬎𧅵㵑𠘰𤅜"),
    (0x91, 0x40, "𥜆飊颷飈飇䫿𦴧𡛓喰飡飦飬鍸餹𤨩䭲𩡗𩤅駵騌騻騐驘𥜥㛄𩂱𩯕髠髢𩬅髴䰎鬔鬭𨘀倴鬴𦦨㣃𣁽魐魀𩴾婅𡡣鮎𤉋鰂鯿鰌𩹨鷔𩾷𪆒𪆫𪃡𪄣𪇟鵾鶃𪄴鸎梈"),
    (0x91, 0xA1, "鷄𢅛𪆓𪈠𡤻𪈳鴹𪂹𪊴麐麕麞麢䴴麪麯𤍤黁㭠㧥㴝伲㞾𨰫鼂鼈䮖鐤𦶢鼗"),
    (0x91, 0xC0, "鼹嚟嚊齅馸𩂋韲葿齢齩竜龎爖䮾𤥵𤦻煷𤧸𤍈𤩑玞𨯚𡣺禟𨥾𨸶鍩鏳𨩄鋬鎁鏋𨥬𤒹爗㻫睲穃烐𤑳𤏸煾𡟯炣𡢾𣖙㻇𡢅𥐯𡟸㜢𡛻𡠹㛡𡝴𡣑𥽋㜣𡛀坛𤨥𡏾𡊨"),
    (0x92, 0x40, "𡏆𡒶蔃𣚦"),
    (0x92, 0x45, "葕𤦔𧅥𣸱𥕜𣻻𧁒䓴𣛮𩦝𦼦柹㜳㰕㷧塬𡤢栐䁗𣜿𤃡𤂋𤄏𦰡哋嚞𦚱嚒𠿟𠮨𠸍鏆𨬓鎜仸儫㠙𤐶亼𠑥𠍿佋侊𥙑婨𠆫𠏋㦙𠌊𠐔㐵伩𠋀𨺳𠉵諚𠈌亘"),
    (0x92, 0xA1, "働儍侢伃𤨎𣺊佂倮偬傁俌俥偘僼"), (0x92, 0xB3, "湶𣖕𣸹𣺿浲𡢄𣺉冨凃𠗠䓝𠒣𠒒𠒑赺𨪜𠜎剙劤𠡳勡"),
    (0x92, 0xC9, "䙺熌𤎌𠰠𤦬𡃤槑𠸝"), (0x92, 0xD2, "㻞璙琔瑖玘䮎𤪼𤂍叐㖄爏𤃉喴𠍅响𠯆圝鉝雴鍦埝垍坿㘾壋媙𨩆𡛺𡝯𡜐娬妸銏婾嫏娒𥥆𡧳𡡡𤊕㛵洅瑃娡𥺃"),
    (0x93, 0x40, "媁𨯗𠐓鏠璌𡌃焅䥲鐈𨧻鎽㞠尞岞幞幈𡦖𡥼𣫮廍孏𡤃𡤄㜁𡢠㛝𡛾㛓脪𨩇𡶺𣑲𨦨弌弎𡤧𡞫婫𡜻孄蘔𧗽衠恾𢡠𢘫忛㺸𢖯𢖾𩂈𦽳懀𠀾𠁆𢘛憙憘恵𢲛𢴇𤛔𩅍"),
    (0x93, 0xA1, "摱𤙥𢭪㨩𢬢𣑐𩣪𢹸挷𪑛撶挱揑𤧣𢵧护𢲡搻敫楲㯴𣂎𣊭𤦉𣊫唍𣋠𡣙𩐿曎𣊉𣆳㫠䆐𥖄𨬢𥖏𡛼𥕛𥐥磮𣄃𡠪𣈴㑤𣈏𣆂𤋉暎𦴤晫䮓昰𧡰𡷫晣𣋒𣋡昞𥡲㣑𣠺𣞼㮙𣞢𣏾瓐㮖枏𤘪梶栞㯄檾㡣𣟕𤒇樳橒櫉欅𡤒攑梘橌㯗橺歗𣿀𣲚鎠鋲𨯪𨫋"),
    (0x94, 0x40, "銉𨀞𨧜鑧涥漋𤧬"),
    (0x94, 0x48, "𣽿㶏渄𤀼娽渊塇洤硂焻𤌚𤉶烱牐犇犔𤞏𤜥兹𤪤𠗫瑺𣻸𣙟𤩊𤤗𥿡㼆㺱𤫟𨰣𣼵悧㻳瓌琼鎇琷䒟𦷪䕑疃㽣𤳙𤴆㽘畕癳𪗆㬙瑨𨫌𤦫𤦎㫻"),
    (0x94, 0xA1, "㷍𤩎㻿𤧅𤣳釺圲鍂𨫣𡡤僟𥈡𥇧睸𣈲眎眏睻𤚗𣞁㩞𤣰琸璛㺿𤪺𤫇䃈𤪖𦆮錇𥖁砞碍碈磒珐祙𧝁𥛣䄎"),
    (0x94, 0xCB, "蒖禥樭𣻺稺秴䅮𡛦䄲鈵秱𠵌𤦌𠊙𣶺𡝮㖗啫㕰㚪𠇔𠰍竢婙𢛵𥪯𥪜娍𠉛磰娪𥯆竾䇹籝籭䈑𥮳𥺼𥺦糍𤧹𡞰粎籼粮檲緜縇緓罎𦉡"),
    (0x95, 0x40, "𦅜𧭈綗𥺂䉪𦭵𠤖柖𠁎𣗏埄𦐒𦏸𤥢翝笧𠠬𥫩𥵃笌𥸎駦虅驣樜𣐿㧢𤧷𦖭騟𦖠蒀𧄧𦳑䓪脷䐂胆脉腂𦞴飃𦩂艢艥𦩑葓𦶧蘐𧈛媆䅿𡡀嬫𡢡嫤𡣘蚠蜨𣶏蠭𧐢娂"),
    (0x95, 0xA1, "衮佅袇袿裦襥襍𥚃襔𧞅𧞄𨯵𨯙𨮜𨧹㺭蒣䛵䛏㟲訽訜𩑈彍鈫𤊄旔焩烄𡡅鵭貟賩𧷜妚矃姰䍮㛔踪躧𤰉輰轊䋴汘澻𢌡䢛潹溋𡟚鯩㚵𤤯邻"),
    (0x95, 0xDA, "啱䤆醻鐄𨩋䁢𨫼鐧𨰝𨰻蓥訫閙閧閗閖𨴴瑅㻂𤣿𤩂𤏪㻧𣈥随𨻧𨹦𨹥㻌𤧭𤩸𣿮琒瑫㻼靁𩂰"), (0x96, 0x40, "桇䨝𩂓𥟟"),
    (0x96, 0x45, "鍨𨦉𨰦𨬯𦎾銺嬑譩䤼珹𤈛鞛靱餸𠼦巁𨯅𤪲頟𩓚鋶𩗗釥䓀𨭐𤩧𨭤飜𨩅㼀鈪䤥萔餻饍𧬆㷽馛䭯馪驜𨭥𥣈檏騡嫾騯𩣱䮐𩥈馼䮽䮗鍽塲𡌂堢𤦸"),
    (0x96, 0xA1, "𡓨硄𢜟𣶸棅㵽鑘㤧慐𢞁𢥫愇鱏鱓鱻鰵鰐魿鯏𩸭鮟𪇵𪃾鴡䲮𤄄鸘䲰鴌𪆴𪃭𪃳𩤯鶥蒽𦸒𦿟𦮂藼䔳𦶤𦺄𦷰萠藮𦸀𣟗𦁤秢𣖜𣙀䤭𤧞㵢鏛銾鍈𠊿碹鉷鑍俤㑀遤𥕝砽硔碶硋𡝗𣇉𤥁㚚佲濚濙"),
    (0x96, 0xEE, "瀞吔𤆵垻壳垊鴖埗焴㒯𤆬燫𦱀𤾗"), (0x96, 0xFD, "𡞵𨩉"),
    (0x97, 0x40, "愌嫎娋䊼𤒈㜬䭻𨧼鎻鎸𡣖𠼝葲𦳀𡐓𤋺𢰦𤏁妔𣶷𦝁綨𦅛𦂤𤦹𤦋𨧺鋥珢㻩璴𨭣𡢟㻡𤪳櫘珳珻㻖𤨾𤪔𡟙𤩦𠎧𡐤𤧥瑈𤤖炥𤥶銄珦鍟𠓾錱𨫎𨨖鎆𨯧𥗕䤵𨪂煫"),
    (0x97, 0xA1, "𤥃𠳿嚤𠘚𠯫𠲸唂秄𡟺緾𡛂𤩐𡡒䔮鐁㜊𨫀𤦭妰𡢿𡢃𧒄媡㛢𣵛㚰鉟婹𨪁𡡢鍴㳍𠪴䪖㦊僴㵩㵌𡎜煵䋻𨈘渏𩃤䓫浗𧹏灧沯㳖𣿭𣸭渂漌㵯𠏵畑㚼㓈䚀㻚䡱姄鉮䤾轁𨰜𦯀堒埈㛖𡑒烾𤍢𤩱𢿣𡊰𢎽梹楧𡎘𣓥𧯴𣛟𨪃𣟖𣏺𤲟樚𣚭𦲷萾䓟䓎"),
    (0x98, 0x40, "𦴦𦵑𦲂𦿞漗𧄉茽𡜺菭𦲀𧁓𡟛妉媂𡞳婡婱𡤅𤇼㜭姯𡜼㛇熎鎐暚𤊥婮娫𤊓樫𣻹𧜶𤑛𤋊焝𤉙𨧡侰𦴨峂𤓎𧹍𤎽樌𤉖𡌄炦焳𤏩㶥泟勇𤩏繥姫崯㷳彜𤩝𡟟綤萦"),
    (0x98, 0xA1, "咅𣫺𣌀𠈔坾𠣕𠘙㿥𡾞𪊶瀃𩅛嵰玏糓𨩙𩐠俈翧狍猐𧫴猸猹𥛶獁獈㺩𧬘遬燵𤣲珡臶㻊県㻑沢国琙琞琟㻢㻰㻴㻺瓓㼎㽓畂畭畲疍㽼痈痜㿀癍㿗癴㿜発𤽜熈嘣覀塩䀝睃䀹条䁅㗛瞘䁪䁯属瞾矋売砘点砜䂨砹硇硑硦葈𥔵礳栃礲䄃"),
    (0x99, 0x40, "䄉禑禙辻稆込䅧窑䆲窼艹䇄竏竛䇏両筢筬筻簒簛䉠䉺类粜䊌粸䊔糭输烀𠳏総緔緐緽羮羴犟䎗耠耥笹耮耱联㷌垴炠肷胩䏭脌猪脎脒畠脔䐁㬹腖腙腚"),
    (0x99, 0xA1, "䐓堺腼膄䐥膓䐭膥埯臁臤艔䒏芦艶苊苘苿䒰荗险榊萅烵葤惣蒈䔄蒾蓡蓸蔐蔸蕒䔻蕯蕰藠䕷虲蚒蚲蛯际螋䘆䘗袮裿褤襇覑𧥧訩訸誔誴豑賔賲贜䞘塟跃䟭仮踺嗘坔蹱嗵躰䠷軎転軤軭軲辷迁迊迌逳駄䢭飠鈓䤞鈨鉘鉫銱銮銿"),
    (0x9A, 0x40, "鋣鋫鋳鋴鋽鍃鎄鎭䥅䥑麿鐗匁鐝鐭鐾䥪鑔鑹锭関䦧间阳䧥枠䨤靀䨵鞲韂噔䫤惨颹䬙飱塄餎餙冴餜餷饂饝饢䭰駅䮝騼鬏窃魩鮁鯝鯱鯴䱭鰠㝯𡯂鵉鰺"),
    (0x9A, 0xA1, "黾噐鶓鶽鷀鷼银辶鹻麬麱麽黆铜黢黱黸竈齄𠂔𠊷𠎠椚铃妬𠓗塀铁㞹𠗕𠘕𠙶𡚺块煳𠫂𠫍𠮿呪吆𠯋咞𠯻𠰻𠱓𠱥𠱼惧𠲍噺𠲵𠳝𠳭𠵯𠶲𠷈楕鰯螥𠸄𠸎𠻗𠾐𠼭𠹳尠𠾼帋𡁜𡁏𡁶朞𡁻𡂈𡂖㙇𡂿𡃓𡄯𡄻卤蒭𡋣𡍵𡌶讁𡕷𡘙𡟃𡟇乸炻𡠭𡥪"),
    (0x9B, 0x40, "𡨭𡩅𡰪𡱰𡲬𡻈拃𡻕𡼕熘桕𢁅槩㛈𢉼𢏗𢏺𢜪𢡱𢥏苽𢥧𢦓𢫕覥𢫨辠𢬎鞸𢬿顇骽𢱌"), (0x9B, 0x62, "𢲈𢲷𥯨𢴈𢴒𢶷𢶕𢹂𢽴𢿌𣀳𣁦𣌟𣏞徱晈暿𧩹𣕧𣗳"),
    (0x9B, 0x77, "𤦺"), (0x9B, 0x79, "𣘚𣜖"), (0x9B, 0x7C, "𠍆墵朎"),
    (0x9B, 0xA1, "椘𣪧𧙗𥿢𣸑𣺹𧗾𢂚䣐䪸𤄙𨪚𤋮𤌍𤀻𤌴𤎖𤩅𠗊凒𠘑妟𡺨㮾𣳿𤐄𤓖垈𤙴㦛𤜯𨗨𩧉㝢𢇃譞𨭎"),
    (0x9B, 0xC7, "𤠒𤣻𤨕爉𤫀𠱸奥𤺥𤾆𠝹軚𥀬劏圿煱𥊙𥐙𣽊𤪧喼𥑆𥑮𦭒"), (0x9B, 0xDF, "㑳𥔿𧘲𥕞䜘𥕢𥕦𥟇𤤿𥡝偦㓻𣏌"),
    (0x9B, 0xED, "𥤃䝼𨥈𥪮𥮉𥰆𡶐垡煑"), (0x9B, 0xF7, "𦄂𧰒遖𦆲𤾚譢𦐂𦑊"), (0x9C, 0x40, "嵛𦯷"),
    (0x9C, 0x43, "𦒄𡤜諪𤧶𦒈𣿯𦔒䯀𦖿𦚵𢜛鑥𥟡憕娧晉"), (0x9C, 0x54, "嚹𤔡𦛼乪𤤴陖涏𦲽㘘襷𦞙𦡮𦐑𦡞"), (0x9C, 0x63, "𦣇筂𩃀𠨑𦤦"),
    (0x9C, 0x69, "𦤹穅"), (0x9C, 0x6C, "𦧺騦𦨭㙟𦑩𠀡禃𦨴𦭛崬𣔙"), (0x9C, 0x78, "𦮝䛐𦲤画补𦶮墶"),
    (0x9C, 0xA1, "㜜𢖍𧁋𧇍㱔𧊀𧊅銁𢅺𧊋錰𧋦𤧐氹钟𧑐𠻸蠧裵𢤦𨑳𡞱溸𤨪𡠠㦤㚹"), (0x9C, 0xBE, "䔿暶𩲭𩢤襃𧟌𧡘囖䃟𡘊㦡𣜯𨃨𡏅熭荦𧧝𩆨"),
    (0x9C, 0xD1, "䲷𧂯𨦫𧧽𧨊𧬋𧵦𤅺筃祾𨀉澵𪋟樃𨌘厢𦸇鎿栶靝𨅯𨀣𦦵𡏭𣈯𨁈嶅𨰰𨂃圕頣𨥉嶫𤦈斾槕叒𤪥𣾁㰑朶𨂐𨃴𨄮𡾡𨅏"),
    (0x9D, 0x40, "𨆉𨆯𨈚𨌆𨌯𨎊㗊𨑨𨚪䣺揦𨥖砈鉕𨦸䏲𨧧䏟𨧨𨭆𨯔姸𨰉"), (0x9D, 0x58, "𨿅𩃬"),
    (0x9D, 0x5B, "𩄐𩄼㷷𩅞𤫊运犏嚋𩓧𩗩𩖰𩖸𩜲𩣑𩥉𩥪𩧃𩨨𩬎𩵚𩶛纟𩻸𩼣䲤镇𪊓熢𪋿䶑递𪗋䶜𠲜达嗁"),
    (0x9D, 0xA1, "辺𢒰边𤪓䔉繿潖檱仪㓤𨬬𧢝㜺躀𡟵𨀤𨭬𨮙𧨾𦚯㷫𧙕𣲷𥘵𥥖亚𥺁𦉘嚿𠹭踎孭𣺈𤲞揞"),
    (0x9D, 0xC5, "𡟶𡡻攰嘭𥱊吚𥌑㷆𩶘䱽嘢嘞罉𥻘奵𣵀蝰东𠿪𠵉𣚺脗鵞贘瘻鱅癎瞹鍅吲腈苷嘥脲萘肽嗪祢噃吖𠺝㗎嘅嗱曱𨋢㘭甴嗰喺咗啲𠱁𠲖廐𥅈𠹶𢱢"),
    (0x9E, 0x40, "𠺢麫絚嗞𡁵抝靭咔賍燶酶揼掹揾啩𢭃鱲𢺳冚㓟𠶧冧呍唞唓癦踭𦢊疱肶蠄螆裇膶萜𡃁䓬猄𤜆宐茋𦢓噻𢛴𧴯𤆣𧵳𦻐𧊶酰𡇙鈈𣳼𪚩𠺬𠻹牦𡲢䝎𤿂𧿹𠿫䃺"),
    (0x9E, 0xA1, "鱝攟𢶠䣳𤟠𩵼𠿬𠸊"), (0x9E, 0xAA, "𧖣𠿭"), (0x9E, 0xAD, "𦁈𡆇熣纎鵐业丄㕷嬍沲卧㚬㧜卽㚥𤘘墚𤭮舭呋垪𥪕𠥹"),
    (0x9E, 0xC5, "㩒𢑥獴𩺬䴉鯭𣳾𩼰䱛𤾩𩖞𩿞葜𣶶𧊲𦞳𣜠挮紥𣻷𣸬㨪逈勌㹴㙺䗩𠒎癀嫰𠺶硺𧼮墧䂿噼鮋嵴癔𪐴麅䳡"), (0x9E, 0xF0, "㟻愙𣃚𤏲"),
    (0x9E, 0xF5, "噝𡊩垧𤥣𩸆刴𧂮㖭"), (0x9E, 0xFE, "鵼"), (0x9F, 0x40, "籖鬹埞𡝬屓擓𩓐𦌵𧅤蚭𠴨𦴢𤫢𠵱"),
    (0x9F, 0x4F, "凾𡼏嶎霃𡷑麁遌笟鬂峑箣扨挵髿篏鬪籾"), (0x9F, 0x61, "籂粆鰕篼鬉"),
    (0x9F, 0x67, "鰛𤤾齚啳寃俽麘俲剠㸆勑坧偖妷帒韈鶫轜呩鞴饀鞺匬愰"), (0x9F, 0xA1, "椬叚鰊鴂䰻陁榀傦畆𡝭駚剳"),
    (0x9F, 0xAE, "酙隁酜"), (0x9F, 0xB2, "酑𨺗捿𦴣櫊嘑醎畺抅𠏼獏籰𥰡𣳽"), (0x9F, 0xC1, "𤤙盖鮝个𠳔莾衂"),
    (0x9F, 0xC9, "届槀"), (0x9F, 0xCC, "坺刟巵从氱𠇲伹咜哚劚趂㗾"), (0x9F, 0xD9, "㗳"),
    (0x9F, 0xDB, "歒酼龥鮗頮颴骺麨麄煺笔"), (0x9F, 0xE7, "毺蠘罸"), (0x9F, 0xEB, "嘠𪙊蹷齓"),
    (0x9F, 0xF0, "跔蹏鸜踁抂𨍽踨蹵竓𤩷稾磘泪詧瘇"), (0xA0, 0x40, "𨩚鼦泎蟖痃𪊲硓咢贌狢獱謭猂瓱賫𤪻蘯徺袠䒷"), (0xA0, 0x55, "𡠻𦸅"),
    (0xA0, 0x58, "詾𢔛"), (0xA0, 0x5B, "惽癧髗鵄鍮鮏蟵"), (0xA0, 0x64, "賷猬霡鮰㗖犲䰇籑饊𦅙慙䰄麖慽"),
    (0xA0, 0x73, "坟慯抦戹"), (0xA0, 0x78, "㩜懢厪𣏵捤栂㗒"), (0xA0, 0xA1, "嵗𨯂迚𨸹"),
    (0xA0, 0xA6, "僙𡵆礆匲阸𠼻䁥"), (0xA0, 0xAE, "矾"),
    (0xA0, 0xB0, "糂𥼚糚稭聦聣絍甅瓲覔舚朌聢𧒆聛瓰脃眤覉𦟌畓𦻑螩蟎臈螌詉貭譃眫瓸蓚㘵榲趦"), (0xA0, 0xD4, "覩"),
    (0xA0, 0xD6, "涹蟁𤀑瓧㷛煶悤憜㳑"), (0xA0, 0xE0, "恷"), (0xA0, 0xE2, "罱𨬭"),
    (0xA0, 0xE5, "惩䭾删㰘𣳇𥻗𧙖𥔱𡥄𡋾𩤃𦷜𧂭峁𦆭𨨏𣙷𠃮𦡆𤼎䕢嬟𦍌齐麦𦉫"),
    (0xC6, 0xA1, "①②③④⑤⑥⑦⑧⑨⑩⑴⑵⑶⑷⑸⑹⑺⑻⑼⑽ⅰⅱⅲⅳⅴⅵⅶⅷⅸⅹ丶丿亅亠冂冖冫勹匸卩厶夊宀巛⼳广 彐彡攴 疒 辵 ¨ˆヽヾゝゞ  々〆〇ー［］✽ぁあぃいぅうぇえぉおかがきぎくぐけげこごさざしじ"),
    (0xC7, 0x40, (codeRun 0x3059 59 ++ "ァアィイ")),
    (0xC7, 0xA1, (codeRun 0x30A5 82 ++ "АБВГДЕЁЖЗИЙК")),
    (0xC8, 0x40, (codeRun 0x41B 27 ++ "ё" ++ codeRun 0x436 26 ++ "⇧↸↹㇏𠃌乚𠂊刂䒑")),
    (0xC8, 0xA1, "龰冈龱𧘇"), (0xC8, 0xCD, "￢￤＇＂㈱№℡゛゜⺀⺄⺆⺇⺈⺊⺌⺍⺕⺜⺝⺥⺧⺪⺬⺮⺶⺼⺾⻆⻊⻌⻍⻏⻖⻗⻞⻣"),
    (0xC8, 0xF5, "ʃɐɛɔɵœøŋʊɪ"), (0xF9, 0xD6, "碁銹裏墻恒粧嫺╔╦╗╠╬╣╚╩╝╒╤╕╞╪╡╘╧╛╓╥╖╟╫╢╙╨╜║═╭╮╰╯￭"),
    (0xFA, 0x40, "𠕇鋛𠗟𣿅蕌䊵珯况㙉𤥂𨧤鍄𡧛苮𣳈砼杄拟𤤳𨦪𠊠𦮳𡌅侫𢓭倈𦴩𧪄𣘀𤪱𢔓"), (0xFA, 0x60, "𠍾徤𠎀𠍇滛𠐟"),
    (0xFA, 0x67, "儁㑺儎顬㝃萖𤦤𠒇兠𣎴兪𠯿𢃼𠋥𢔰𠖎𣈳𡦃宂蝽𠖳𣲙冲冸"), (0xFA, 0xA1, "鴴凉减凑㳜凓𤪦决凢卂凭菍椾𣜭彻刋刦刼劵剗劔効勅簕蕂勠蘍𦬓"),
    (0xFA, 0xBE, "𨫞啉滙𣾀𠥔𣿬匳"), (0xFA, 0xC6, "𠯢泋𡜦栛珕恊㺪㣌𡛨燝䒢卭却𨚫卾"),
    (0xFA, 0xD6, "𡖖𡘓矦厓𨪛厠厫厮玧𥝲㽙玜叁叅汉义埾叙㪫𠮏叠𣿫𢶣叶𠱷吓灹唫晗浛呭𦭓𠵴啝咏咤䞦𡜍𠻝㶴𠵍"), (0xFB, 0x40, "𨦼𢚘啇䳭启琗喆喩"),
    (0xFB, 0x49, "𡣗𤀺䕒𤐵暳𡂴嘷曍𣊊暤暭噍噏磱囱鞇叾圀囯园𨭦㘣𡉏坆𤆥汮炋坂㚱𦱾埦𡐖堃𡑔𤍣堦𤯵塜墪㕡壠壜𡈼壻寿坃𪅐𤉸鏓㖡够梦㛃湙"),
    (0xFB, 0xA1, "𡘾娤啓𡚒蔅姉𠵎𦲁𦴪𡟜姙𡟻𡞲𦶦浱𡠨𡛕姹𦹅媫婣㛦𤦩"),
    (0xFB, 0xB9, "㜈媖瑥嫓𦾡𢕔㶅𡤑㜲𡚸広勐孶斈孼𧨎䀄䡝𠈄寕慠𡨴𥧌𠖥寳宝䴐尅𡭄尓珎尔𡲥𦬨屉䣝岅峩峯嶋𡷹𡸷崐崘嵆𡺤岺巗苼㠭𤤁𢁉𢅳芇㠶㯂帮檊"),
    (0xFB, 0xF4, "幺𤒼𠳓厦亷"), (0xFB, 0xFA, "厨𡝱帉廴𨒂"), (0xFC, 0x40, "廹廻㢠廼栾鐛弍𠇁弢㫞䢮𡌺强𦢈𢏐"),
    (0xFC, 0x50, "𢑱彣鞽𦹮彲鍀𨨶徧嶶㵟𥉐𡽪𧃸𢙨釖𠊞𨨩怱暅𡡷㥣㷇㘹垐𢞴祱㹀悞"), (0xFC, 0x6D, "悳𤦂𤦏𧩓璤僡媠慤萤慂慈𦻒憁凴𠙖憇宪𣾷"),
    (0xFC, 0xA1, "𢡟懓𨮝𩥝懐㤲𢦀𢣁怣慜攞掋𠄘担𡝰拕𢸍捬𤧟㨗搸揸𡎎𡟼"),
    (0xFC, 0xBA, "澊𢸶頔𤂌𥜝擡擥鑻㩦携㩗敍漖𤨨𤨣斅敭敟𣁾斵𤥀䬷旑䃘𡠩无旣忟𣐀昘𣇷𣇸晄𣆤𣆥晋𠹵晧𥇦晳"), (0xFC, 0xE3, "𡸽𣈱𨗴𣇈𥌓矅𢣷馤朂𤎜𤨡㬫槺𣟂"),
    (0xFC, 0xF2, "杧杢𤇍𩃭柗䓩栢湐鈼栁𣏦𦶠桝"),
    (0xFD, 0x40, "𣑯槡樋𨫟楳棃𣗍椁椀㴲㨁𣘼㮀枬楡𨩊䋼椶榘㮡𠏉荣傐槹𣙙𢄪橅𣜃檝㯳枱櫈𩆜㰍欝𠤣惞欵歴𢟍溵𣫛𠎵𡥘㝀吡𣭚毡𣻼毜氷𢒋𤣱𦭑汚舦汹𣶼䓅𣶽𤆤𤤌𤤀"),
    (0xFD, 0xA1, "𣳉㛥㳫𠴲鮃𣇹𢒑羏样𦴥𦶡𦷫涖浜湼漄𤥿𤂅𦹲蔳𦽴凇"), (0xFD, 0xB9, "萮𨬡"),
    (0xFD, 0xBC, "𣸯瑓𣾂秌湏媑𣁋濸㜍澝𣸰滺𡒗𤀽䕕鏰潄潜㵎潴𩅰㴻澟𤅄濓𤂑𤅕𤀹𣿰𣾴𤄿凟𤅖𤅗𤅀𦇝灋灾炧炁烌烕烖烟䄄㷨熴熖𤉷焫煅媈煊"),
    (0xFD, 0xF2, "岜𤍥煏鍢𤋁焬𤑚𤨧𤨢熺𨯨炽爎"), (0xFE, 0x40, "鑂爕夑鑃爤鍁𥘅爮牀𤥴梽牕牗㹕𣁄栍漽犂"),
    (0xFE, 0x53, "猫𤠣𨠫䣭𨠄猨献珏玪𠰺𦨮珉瑉𤇢𡛧𤨤昣㛅𤦷𤦍𤧻珷琕椃𤨦琹𠗃㻗"), (0xFE, 0x70, "𢢭瑠𨺲瑇珤瑶莹瑬㜰瑴鏱樬璂䥓𤪌"),
    (0xFE, 0xA1, "𤅟𤩹𨮏孆𨰃𡢞瓈𡦈甎"),
    (0xFE, 0xAB, "甞𨻙𡩋寗𨺬鎅畍畊畧畮𤾂㼄𤴓疎瑝疞疴瘂瘬癑癏癯癶𦏵皐臯㟸𦤑𦤎皡皥皷盌𦾟葢𥂝𥅽𡸜眞眦着撯𥈠睘𣊬瞯𨥤𨥨𡛁矴"),
    (0xFE, 0xDE, "𡍶𤨒棊碯磇磓隥礮𥗠磗礴碱𧘌辸袄𨬫𦂃𢘜禆褀椂禀𥡗禝𧬹礼禩渪𧄦㺨秆𩄍秔")]
  pairs := [(0x8862, "Ê\u0304"), (0x8864, "Ê\u030c"), (0x88A3, "ê\u0304"), (0x88A5, "ê\u030c")]
  wideErrors := []
  long := .none
  lastWins := true
  encodeExceptions := []

/-- The codec johab. -/
def johab : DoubleByte where
  name := "johab"
  lowChanges := []
  high := codeFill 0xFFFF 128
  layouts := [.johab uhcGrid]
  overrides := []
  pairs := []
  wideErrors := []
  long := .none
  lastWins := true
  encodeExceptions := []

/-- The double-byte codecs by name. -/
def asianCodecs : List (String × DoubleByte) :=
  [("shift_jis", shiftJis), ("cp932", cp932), ("euc_jp", eucJp),
   ("shift_jis_2004", shiftJis2004), ("shift_jisx0213", shiftJisX0213),
   ("euc_jis_2004", eucJis2004), ("euc_jisx0213", eucJisX0213), ("gb2312", gb2312),
   ("gbk", gbk), ("gb18030", gb18030), ("euc_kr", eucKr), ("cp949", cp949), ("big5", big5),
   ("cp950", cp950), ("big5hkscs", big5Hkscs), ("johab", johab)]

end VCard.Charset
