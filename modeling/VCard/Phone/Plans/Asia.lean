import VCard.Phone.Plan
/-! Numbering plans of Asia. -/
namespace VCard

namespace Phone

/-- The numbering plan of JP. -/
def planJP : Plan where
  region := "JP"
  code := 81
  internationalPrefix := "010"
  nationalPrefix := "0"
  general := "00[1-9]\\d<6,14>|[25-9]\\d<9>|(?:00|[1-9]\\d\\d)\\d<6>"
  lengths := [8, 9, 10, 11, 12, 13, 14, 15, 16, 17]
  kinds := [
    "(?:1(?:1[235-8]|2[3-6]|3[3-9]|4[2-6]|[58][2-8]|6[2-7]|7[2-9]|9[1-9])|(?:2[2-9]|[36][1-9])\\d|4(?:[2-578]\\d|6[02-8]|9[2-59])|5(?:[2-589]\\d|6[1-9]|7[2-8])|7(?:[25-9]\\d|3[4-9]|4[02-9])|8(?:[2679]\\d|3[2-9]|4[5-9]|5[1-9]|8[03-9])|9(?:[2-58]\\d|[679][1-9]))\\d<6>",
    "[7-9]0[1-9]\\d<7>",
    "20\\d<8>",
    "00777(?:[01]|5\\d)\\d\\d|(?:00(?:7778|882[1245])|(?:120|800\\d)\\d\\d)\\d<4>|00(?:37|66|78)\\d<6,13>",
    "990\\d<6>",
    "60\\d<7>",
    "50[1-9]\\d<7>",
    "570\\d<6>"]
  layouts := [
    ⟨"(\\d<3>)(\\d<3>)(\\d<3>)", "(?:12|57|99)0", "$1-$2-$3", .asAtHome⟩,
    ⟨"(\\d<4>)(\\d)(\\d<4>)", "1(?:26|3[79]|4[56]|5[4-68]|6[3-5])|499|5(?:76|97)|746|8(?:3[89]|47|51)|9(?:80|9[16])", "$1-$2-$3", .asAtHome⟩,
    ⟨"(\\d<3>)(\\d<2>)(\\d<4>)", "60", "$1-$2-$3", .asAtHome⟩,
    ⟨"(\\d)(\\d<4>)(\\d<4>)", "[36]|4(?:2(?:0|9[02-69])|7(?:0[019]|1))", "$1-$2-$3", .asAtHome⟩,
    ⟨"(\\d<2>)(\\d<3>)(\\d<4>)", "1(?:1|5[45]|77|88|9[69])|2(?:2[1-37]|3[0-269]|4[59]|5|6[24]|7[1-358]|8[1369]|9[0-38])|4(?:[28][1-9]|3[0-57]|[45]|6[248]|7[2-579]|9[29])|5(?:2|3[0459]|4[0-369]|5[29]|8[02389]|9[0-389])|7(?:2[02-46-9]|34|[58]|6[0249]|7[57]|9[2-6])|8(?:2[124589]|3[26-9]|49|51|6|7[0-468]|8[68]|9[019])|9(?:[23][1-9]|4[15]|5[138]|6[1-3]|7[156]|8[189]|9[1-489])", "$1-$2-$3", .asAtHome⟩,
    ⟨"(\\d<3>)(\\d<2>)(\\d<4>)", "1|2(?:2[37]|5[5-9]|64|78|8[39]|91)|4(?:2[2689]|64|7[347])|5[2-589]|60|8(?:2[124589]|3[279]|[46-9])|9(?:[235-8]|93)", "$1-$2-$3", .asAtHome⟩,
    ⟨"(\\d<4>)(\\d<2>)(\\d<3,4>)", "007", "$1-$2-$3", .hidden⟩,
    ⟨"(\\d<4>)(\\d<2>)(\\d<4>)", "008", "$1-$2-$3", .hidden⟩,
    ⟨"(\\d<3>)(\\d<3>)(\\d<4>)", "800", "$1-$2-$3", .asAtHome⟩,
    ⟨"(\\d<2>)(\\d<4>)(\\d<4>)", "[257-9]", "$1-$2-$3", .asAtHome⟩,
    ⟨"(\\d<4>)(\\d<3>)(\\d<3,4>)", "0", "$1-$2-$3", .hidden⟩,
    ⟨"(\\d<4>)(\\d<4>)(\\d<4,5>)", "0", "$1-$2-$3", .hidden⟩,
    ⟨"(\\d<4>)(\\d<5>)(\\d<5,6>)", "0", "$1-$2-$3", .hidden⟩,
    ⟨"(\\d<4>)(\\d<6>)(\\d<6,7>)", "0", "$1-$2-$3", .hidden⟩]

/-- The numbering plan of CN. -/
def planCN : Plan where
  region := "CN"
  code := 86
  internationalPrefix := "00|1(?:[12]\\d|79)\\d\\d00"
  nationalPrefix := "(1(?:[12]\\d|79)\\d\\d)|0"
  general := "1[127]\\d<8,9>|2\\d<9>(?:\\d<2>)?|[12]\\d<6,7>|86\\d<6>|(?:1[03-689]\\d|6)\\d<7,9>|(?:[3-579]\\d|8[0-57-9])\\d<6,9>"
  lengths := [7, 8, 9, 10, 11, 12]
  localLengths := [5, 6]
  kinds := [
    "(?:10(?:[02-79]\\d\\d|[18](?:0[1-9]|[1-9]\\d))|21(?:[18](?:0[1-9]|[1-9]\\d)|[2-79]\\d\\d))\\d<5>|(?:43[35]|754)\\d<7,8>|8(?:078\\d<7>|51\\d<7,8>)|(?:10|(?:2|85)1|43[35]|754)(?:100\\d\\d|95\\d<3,4>)|(?:2[02-57-9]|3(?:11|7[179])|4(?:[15]1|3[12])|5(?:1\\d|2[37]|3[12]|51|7[13-79]|9[15])|7(?:[39]1|5[57]|6[09])|8(?:71|98))(?:[02-8]\\d<7>|1(?:0(?:0\\d\\d(?:\\d<3>)?|[1-9]\\d<5>)|[1-9]\\d<6>)|9(?:[0-46-9]\\d<6>|5\\d<3>(?:\\d(?:\\d<2>)?)?))|(?:3(?:1[02-9]|35|49|5\\d|7[02-68]|9[1-68])|4(?:1[02-9]|2[179]|3[46-9]|5[2-9]|6[47-9]|7\\d|8[23])|5(?:3[03-9]|4[36]|5[02-9]|6[1-46]|7[028]|80|9[2-46-9])|6(?:3[1-5]|6[0238]|9[12])|7(?:01|[17]\\d|2[248]|3[04-9]|4[3-6]|5[0-3689]|6[2368]|9[02-9])|8(?:1[236-8]|2[5-7]|3\\d|5[2-9]|7[02-9]|8[36-8]|9[1-7])|9(?:0[1-3689]|1[1-79]|3\\d|4[13]|5[1-5]|7[0-79]|9\\d))(?:[02-8]\\d<6>|1(?:0(?:0\\d\\d(?:\\d<2>)?|[1-9]\\d<4>)|[1-9]\\d<5>)|9(?:[0-46-9]\\d<5>|5\\d<3>(?:\\d(?:\\d<2>)?)?))",
    "1740[0-5]\\d<6>|1(?:[38]\\d|4[57]|[59][0-35-9]|6[25-7]|7[0-35-8])\\d<8>",
    "(?:(?:10|21)8|8)00\\d<7>",
    "16[08]\\d<5>",
    "10(?:10\\d<4>|96\\d<3,4>)|400\\d<7>|950\\d<7,8>|(?:2[0-57-9]|3(?:[157]\\d|35|49|9[1-68])|4(?:[17]\\d|2[179]|[35][1-9]|6[47-9]|8[23])|5(?:[1357]\\d|2[37]|4[36]|6[1-46]|80|9[1-9])|6(?:3[1-5]|6[0238]|9[12])|7(?:01|[1579]\\d|2[248]|3[014-9]|4[3-6]|6[023689])|8(?:1[236-8]|2[5-7]|[37]\\d|5[14-9]|8[36-8]|9[1-8])|9(?:0[1-3689]|1[1-79]|[379]\\d|4[13]|5[1-5]))96\\d<3,4>"]
  layouts := [
    ⟨"(\\d<5,6>)", "1(?:00|2[0-2])|9[56]", "$1", .hidden⟩,
    ⟨"(\\d<2>)(\\d<5,6>)", "10(?:10|9[56])|2[0-57-9](?:100|9[56])", "$1 $2", .hidden⟩,
    ⟨"(\\d<3>)(\\d<5,6>)", "[1-9]", "$1 $2", .hidden⟩,
    ⟨"(\\d<4>)(\\d<4>)", "16[08]", "$1 $2", .hidden⟩,
    ⟨"(\\d<3>)(\\d<4>)(\\d<4>)", "3(?:[157]|35|49|9[1-68])|4(?:[17]|2[179]|6[47-9]|8[23])|5(?:[1357]|2[37]|4[36]|6[1-46]|80)|6(?:3[1-5]|6[0238]|9[12])|7(?:01|[1579]|2[248]|3[014-9]|4[3-6]|6[023689])|8(?:1[236-8]|2[5-7]|[37]|8[36-8]|9[1-8])|9(?:0[1-3689]|1[1-79]|[379]|4[13]|5[1-5])|(?:4[35]|59|85)[1-9]", "$1 $2 $3", .asAtHome⟩,
    ⟨"(\\d<3>)(\\d<3>)(\\d<4>)", "[3-578]", "$1 $2 $3", .asAtHome⟩,
    ⟨"(\\d<3>)(\\d<4>)(\\d<4>)", "1[3-9]", "$1 $2 $3", .asAtHome⟩,
    ⟨"(\\d<2>)(\\d<4>)(\\d<4>)", "[12]", "$1 $2 $3", .asAtHome⟩]

/-- The numbering plan of HK. -/
def planHK : Plan where
  region := "HK"
  code := 852
  internationalPrefix := "00(?:30|5[09]|[126-9]?)"
  general := "8[0-46-9]\\d<6,7>|9\\d<4,7>|(?:[2-7]|9\\d<3>)\\d<7>"
  lengths := [5, 6, 7, 8, 9, 11]
  kinds := [
    "(?:2(?:[13-9]\\d|2[013-9])\\d|3(?:(?:[1569][0-24-9]|4[0-246-9]|7[0-24-69])\\d|8(?:4[0-8]|[579]\\d|6[0-5]))|58(?:0[1-9]|1[2-9]))\\d<4>",
    "(?:4(?:44[0-35-9]|6(?:4[0-57-9]|6[0-4])|7(?:3[0-4]|4[0-48]|6[0-5]))|5(?:35[4-8]|73[0-6]|95[0-8])|6(?:26[013-8]|(?:66|78)[0-5])|70(?:7[1-8]|8[0-4])|84(?:4[0-2]|8[0-35-9])|9(?:29[013-9]|39[014-9]|59[0-4]|899))\\d<4>|(?:4(?:4[0-35-9]|6[0-357-9]|7[0-25])|5(?:[1-59][0-46-9]|6[0-4689]|7[0-246-9])|6(?:0[1-9]|[13-59]\\d|[268][0-57-9]|7[0-79])|70[1-59]|84[0-39]|9(?:0[1-9]|1[02-9]|[2358][0-8]|[467]\\d))\\d<5>",
    "7(?:1(?:0[0-38]|1[0-3679]|3[013]|69|9[0136])|2(?:[02389]\\d|1[18]|7[27-9])|3(?:[0-38]\\d|7[0-369]|9[2357-9])|47\\d|5(?:[178]\\d|5[0-5])|6(?:0[0-7]|2[236-9]|[35]\\d)|7(?:[27]\\d|8[7-9])|8(?:[23689]\\d|7[1-9])|9(?:[025]\\d|6[0-246-8]|7[0-36-9]|8[238]))\\d<4>",
    "800\\d<6>",
    "900(?:[0-24-9]\\d<7>|3\\d<1,4>)",
    "8(?:1[0-4679]\\d|2(?:[0-36]\\d|7[0-4])|3(?:[034]\\d|2[09]|70))\\d<4>",
    "30(?:0[1-9]|[15-7]\\d|2[047]|89)\\d<4>"]
  layouts := [
    ⟨"(\\d<3>)(\\d<2,5>)", "9003", "$1 $2", .asAtHome⟩,
    ⟨"(\\d<4>)(\\d<4>)", "[2-7]|8[1-4]|9(?:0[1-9]|[1-8])", "$1 $2", .asAtHome⟩,
    ⟨"(\\d<3>)(\\d<3>)(\\d<3>)", "8", "$1 $2 $3", .asAtHome⟩,
    ⟨"(\\d<3>)(\\d<2>)(\\d<3>)(\\d<3>)", "9", "$1 $2 $3 $4", .asAtHome⟩]

/-- The numbering plan of TW. -/
def planTW : Plan where
  region := "TW"
  code := 886
  internationalPrefix := "0(?:0[25-79]|19)"
  nationalPrefix := "0"
  general := "[2-689]\\d<8>|7\\d<9,10>|[2-8]\\d<7>|2\\d<6>"
  lengths := [7, 8, 9, 10, 11]
  kinds := [
    "(?:2[2-8]\\d|370|55[01]|7[1-9])\\d<6>|4(?:(?:0(?:0[1-9]|[2-48]\\d)|1[023]\\d)\\d<4,5>|(?:[239]\\d\\d|4(?:0[56]|12|49))\\d<5>)|6(?:[01]\\d<7>|4(?:0[56]|12|24|4[09])\\d<4,5>)|8(?:(?:2(?:3\\d|4[0-269]|[578]0|66)|36[24-9]|90\\d\\d)\\d\\d|4(?:0[56]|12|24|4[09])\\d\\d)\\d<3>|(?:2(?:2(?:0\\d\\d|4(?:0[68]|[249]0|3[0-467]|5[0-25-9]|6[0235689]))|(?:3(?:[09]\\d|1[0-4])|(?:4\\d|5[0-49]|6[0-29]|7[0-5])\\d)\\d)|(?:(?:3[2-9]|5[2-8]|6[0-35-79]|8[7-9])\\d\\d|4(?:2(?:[089]\\d|7[1-9])|(?:3[0-4]|[78]\\d|9[01])\\d))\\d)\\d<3>",
    "(?:40001[0-2]|9[0-8]\\d<4>)\\d<3>",
    "80[0-79]\\d<6>|800\\d<5>",
    "20(?:[013-9]\\d\\d|2)\\d<4>",
    "99\\d<7>",
    "7010(?:[0-2679]\\d|3[0-7]|8[0-5])\\d<5>|70\\d<8>",
    "50[0-46-9]\\d<6>"]
  layouts := [
    ⟨"(\\d<2>)(\\d)(\\d<4>)", "202", "$1 $2 $3", .asAtHome⟩,
    ⟨"(\\d<2>)(\\d<3>)(\\d<4>)", "[258]0", "$1 $2 $3", .asAtHome⟩,
    ⟨"(\\d)(\\d<3,4>)(\\d<4>)", "[23568]|4(?:0[02-48]|[1-47-9])|7[1-9]", "$1 $2 $3", .asAtHome⟩,
    ⟨"(\\d<3>)(\\d<3>)(\\d<3>)", "[49]", "$1 $2 $3", .asAtHome⟩,
    ⟨"(\\d<2>)(\\d<4>)(\\d<4,5>)", "7", "$1 $2 $3", .asAtHome⟩]
  extensionPrefix := "#"

/-- The numbering plan of KR. -/
def planKR : Plan where
  region := "KR"
  code := 82
  internationalPrefix := "00(?:[125689]|3(?:[46]5|91)|7(?:00|27|3|55|6[126]))"
  nationalPrefix := "0(8(?:[1-46-8]|5\\d\\d))?"
  general := "00[1-9]\\d<8,11>|(?:[12]|5\\d<3>)\\d<7>|[13-6]\\d<9>|(?:[1-6]\\d|80)\\d<7>|[3-6]\\d<4,5>|(?:00|7)0\\d<8>"
  lengths := [5, 6, 8, 9, 10, 11, 12, 13, 14]
  localLengths := [3, 4, 7]
  kinds := [
    "(?:2|3[1-3]|[46][1-4]|5[1-5])[1-9]\\d<6,7>|(?:3[1-3]|[46][1-4]|5[1-5])1\\d<2,3>",
    "1(?:05(?:[0-8]\\d|9[0-6])|22[13]\\d)\\d<4,5>|1(?:0[0-46-9]|[16-9]\\d|2[013-9])\\d<6,7>",
    "00(?:308\\d<6,7>|798\\d<7,9>)|(?:00368|[38]0)\\d<7>",
    "60[2-9]\\d<6>",
    "50\\d<8,9>",
    "70\\d<8>",
    "1(?:5(?:22|33|44|66|77|88|99)|6(?:[07]0|44|6[0168]|88)|8(?:00|33|55|77|99))\\d<4>",
    "15\\d<7,8>"]
  layouts := [
    ⟨"(\\d<5>)", "1[016-9]114", "$1", .hidden⟩,
    ⟨"(\\d<2>)(\\d<3,4>)", "(?:3[1-3]|[46][1-4]|5[1-5])1", "$1-$2", .asAtHome⟩,
    ⟨"(\\d<4>)(\\d<4>)", "1", "$1-$2", .asAtHome⟩,
    ⟨"(\\d)(\\d<3,4>)(\\d<4>)", "2", "$1-$2-$3", .asAtHome⟩,
    ⟨"(\\d<2>)(\\d<3>)(\\d<4>)", "[36]0|8", "$1-$2-$3", .asAtHome⟩,
    ⟨"(\\d<2>)(\\d<3,4>)(\\d<4>)", "[1346]|5[1-5]", "$1-$2-$3", .asAtHome⟩,
    ⟨"(\\d<2>)(\\d<4>)(\\d<4>)", "[57]", "$1-$2-$3", .asAtHome⟩,
    ⟨"(\\d<2>)(\\d<5>)(\\d<4>)", "5", "$1-$2-$3", .asAtHome⟩]

/-- The numbering plan of IN. -/
def planIN : Plan where
  region := "IN"
  code := 91
  internationalPrefix := "00"
  nationalPrefix := "0"
  general := "(?:000800|[2-9]\\d\\d)\\d<7>|1\\d<7,12>"
  lengths := [8, 9, 10, 11, 12, 13]
  localLengths := [6, 7, 8]
  kinds := [
    "2717(?:[2-7]\\d|95)\\d<4>|(?:271[0-689]|782[0-6])[2-7]\\d<5>|(?:170[24]|2(?:(?:[02][2-79]|90)\\d|80[13468])|(?:3(?:23|80)|683|79[1-7])\\d|4(?:20[24]|72[2-8])|552[1-7])\\d<6>|(?:11|33|4[04]|80)[2-7]\\d<7>|(?:342|674|788)(?:[0189][2-7]|[2-7]\\d)\\d<5>|(?:1(?:2[0-249]|3[0-25]|4[145]|[59][14]|6[014]|7[1257]|8[01346])|2(?:1[257]|3[013]|4[01]|5[0137]|6[0158]|78|8[1568]|9[14])|3(?:26|4[13]|5[34]|6[01489]|7[02-46]|8[159])|4(?:1[36]|2[1-47]|3[15]|5[12]|6[0-26-9]|7[014-9]|8[013-57]|9[014-7])|5(?:1[025]|22|[36][25]|4[28]|[578]1|9[15])|6(?:12|[2-47]1|5[17]|6[13]|80)|7(?:12|2[14]|3[134]|4[47]|5[15]|[67]1)|8(?:16|2[014]|3[126]|6[136]|7[078]|8[34]|91))[2-7]\\d<6>|(?:1(?:2[35-8]|3[346-9]|4[236-9]|[59][0235-9]|6[235-9]|7[34689]|8[257-9])|2(?:1[134689]|3[24-8]|4[2-8]|5[25689]|6[2-4679]|7[3-79]|8[2-479]|9[235-9])|3(?:01|1[79]|2[1245]|4[5-8]|5[125689]|6[235-7]|7[157-9]|8[2-46-8])|4(?:1[14578]|2[5689]|3[2-467]|5[4-7]|6[35]|73|8[2689]|9[2389])|5(?:[16][146-9]|2[14-8]|3[1346]|4[14-69]|5[46]|7[2-4]|8[2-8]|9[246])|6(?:1[1358]|2[2457]|3[2-4]|4[235-7]|5[2-689]|6[24578]|7[235689]|8[124-6])|7(?:1[013-9]|2[0235-9]|3[2679]|4[1-35689]|5[2-46-9]|[67][02-9]|8[013-7]|9[089])|8(?:1[1357-9]|2[235-8]|3[03-57-9]|4[0-24-9]|5\\d|6[2457-9]|7[1-6]|8[1256]|9[2-4]))\\d[2-7]\\d<5>",
    "(?:61279|7(?:887[02-9]|9(?:313|79[07-9]|8(?:7[0-7]|99)))|8(?:079[04-9]|(?:84|91)7[02-8]))\\d<5>|(?:6(?:12|[2-47]1|5[17]|6[13]|80)[0189]|7(?:1(?:2[0189]|9[0-5])|2(?:[14][017-9]|8[0-59])|3(?:2[5-8]|[34][017-9]|9[016-9])|4(?:1[015-9]|[29][89]|39|8[389])|5(?:[15][017-9]|2[04-9]|9[7-9])|6(?:0[0-47]|1[0-257-9]|2[0-4]|3[19]|5[4589])|70[0289]|88[089]|97[02-8])|8(?:0(?:6[67]|7[02-8])|70[017-9]|84[01489]|91[0-289]))\\d<6>|(?:7(?:31|4\\d)|8(?:0[013-9]|2[0-24-9]|3[0-35-9]|4[236-9]|5\\d|6[0-57-9]|7[1-69]|8[0-35-9]|9[02-9])|9\\d\\d)\\d<7>|(?:6(?:[09]\\d|1[04679]|2[03689]|3[05-9]|4[0489]|50|6[069]|7[07]|8[7-9])|7(?:0\\d|2[0235-79]|3[05-8]|40|5[0346-8]|6[6-9]|7[1-9]|8[0-79]|9[089])|8(?:0[01589]|1[0-57-9]|2[235-9]|3[03-57-9]|[45]\\d|6[02457-9]|7[1-69]|8[0-25-9]|9[02-9])|9\\d\\d)\\d<7>",
    "000800\\d<7>|1(?:600\\d<6>|80(?:0\\d<4,9>|3\\d<9>))",
    "186[12]\\d<9>",
    "1860\\d<7>",
    "140\\d<7>"]
  layouts := [
    ⟨"(\\d<7>)", "575", "$1", .hidden⟩,
    ⟨"(\\d<8>)", "5(?:0|2[23]|3[03]|[67]1|88)", "$1", .hidden⟩,
    ⟨"(\\d<4>)(\\d<4,5>)", "180", "$1 $2", .hidden⟩,
    ⟨"(\\d<3>)(\\d<3>)(\\d<4>)", "140", "$1 $2 $3", .hidden⟩,
    ⟨"(\\d<2>)(\\d<4>)(\\d<4>)", "11|2[02]|33|4[04]|79(?:[124-6]|3(?:[02-9]|1[0-24-9])|7(?:1|9[1-6]))|80(?:[2-4]|6[0-589])", "$1 $2 $3", .asAtHome⟩,
    ⟨"(\\d<3>)(\\d<3>)(\\d<4>)", "(?:1(?:2[0-249]|3[0-25]|4[145]|[59][14]|7[1257]|[68][1-9])|2(?:1[257]|3[013]|4[01]|5[0137]|6[0158]|78|8[1568])|3(?:26|4[1-3]|5[34]|6[01489]|7[02-46]|8[159])|4(?:1[36]|2[1-47]|5[12]|6[0-26-9]|7[0-24-9]|8[013-57]|9[014-7])|5(?:1[025]|22|[36][25]|4[28]|5[12]|[78]1)|6(?:12|[2-4]1|5[17]|6[13]|80)|7(?:12|3[134]|4[47]|61|88)|8(?:16|2[014]|3[126]|6[136]|7[078]|8[34]|91)|(?:43|59|75)[15]|(?:1[59]|29|67|72)[14])[2-7]", "$1 $2 $3", .asAtHome⟩,
    ⟨"(\\d<4>)(\\d<3>)(\\d<3>)", "1(?:[2-479]|5(?:[0236-9]|5[013-9]))|[2-5]|6(?:2(?:84|95)|355|83)|73179|807(?:1|9[1-3])|(?:1552|6(?:1[1358]|2[2457]|3[2-4]|4[235-7]|5[2-689]|6[24578]|7[235689]|8[124-6])\\d|7(?:1(?:[013-8]\\d|9[6-9])|28[6-8]|3(?:2[0-49]|9[2-57])|4(?:1[2-4]|[29][0-7]|3[0-8]|[56]\\d|8[0-24-7])|5(?:2[1-3]|9[0-6])|6(?:0[5689]|2[5-9]|3[02-8]|4\\d|5[0-367])|70[13-7]))[2-7]", "$1 $2 $3", .asAtHome⟩,
    ⟨"(\\d<2>)(\\d<3>)(\\d<4>)(\\d<3>)", "1(?:6|8[06])0", "$1 $2 $3 $4", .hidden⟩,
    ⟨"(\\d<4>)(\\d<3>)(\\d<3>)(\\d<3>)", "18", "$1 $2 $3 $4", .hidden⟩,
    ⟨"(\\d<5>)(\\d<5>)", "[6-9]", "$1 $2", .asAtHome⟩,
    ⟨"(\\d<4>)(\\d<2,4>)(\\d<4>)", "1(?:6|8[06]0)", "$1 $2 $3", .asAtHome⟩]

/-- The numbering plan of PK. -/
def planPK : Plan where
  region := "PK"
  code := 92
  internationalPrefix := "00"
  nationalPrefix := "0"
  general := "122\\d<6>|[24-8]\\d<10,11>|9(?:[013-9]\\d<8,10>|2(?:[01]\\d\\d|2(?:[06-8]\\d|1[01]))\\d<7>)|(?:[2-8]\\d<3>|92(?:[0-7]\\d|8[1-9]))\\d<6>|[24-9]\\d<8>|[89]\\d<7>"
  lengths := [8, 9, 10, 11, 12]
  localLengths := [5, 6, 7]
  kinds := [
    "(?:(?:21|42)[2-9]|58[126])\\d<7>|(?:2[25]|4[0146-9]|5[1-35-7]|6[1-8]|7[14]|8[16]|91)[2-9]\\d<6,7>|(?:2(?:3[2358]|4[2-4]|9[2-8])|45[3479]|54[2-467]|60[468]|72[236]|8(?:2[2-689]|3[23578]|4[3478]|5[2356])|9(?:2[2-8]|3[27-9]|4[2-6]|6[3569]|9[25-8]))[2-9]\\d<5,6>",
    "3(?:[0-247]\\d|3[0-79]|55|64)\\d<7>",
    "800\\d<5>(?:\\d<3>)?",
    "900\\d<5>",
    "122\\d<6>",
    "(?:2(?:[125]|3[2358]|4[2-4]|9[2-8])|4(?:[0-246-9]|5[3479])|5(?:[1-35-7]|4[2-467])|6(?:0[468]|[1-8])|7(?:[14]|2[236])|8(?:[16]|2[2-689]|3[23578]|4[3478]|5[2356])|9(?:1|22|3[27-9]|4[2-6]|6[3569]|9[2-7]))111\\d<6>"]
  layouts := [
    ⟨"(\\d<3>)(\\d<3>)(\\d<2,7>)", "[89]0", "$1 $2 $3", .asAtHome⟩,
    ⟨"(\\d<4>)(\\d<5>)", "1", "$1 $2", .asAtHome⟩,
    ⟨"(\\d<3>)(\\d<6,7>)", "2(?:3[2358]|4[2-4]|9[2-8])|45[3479]|54[2-467]|60[468]|72[236]|8(?:2[2-689]|3[23578]|4[3478]|5[2356])|9(?:2[2-8]|3[27-9]|4[2-6]|6[3569]|9[25-7])", "$1 $2", .asAtHome⟩,
    ⟨"(\\d<2>)(\\d<7,8>)", "[24-9]", "$1 $2", .asAtHome⟩,
    ⟨"(\\d<5>)(\\d<5>)", "58", "$1 $2", .asAtHome⟩,
    ⟨"(\\d<3>)(\\d<7>)", "3", "$1 $2", .asAtHome⟩,
    ⟨"(\\d<2>)(\\d<3>)(\\d<3>)(\\d<3>)", "[24-9]", "$1 $2 $3 $4", .asAtHome⟩,
    ⟨"(\\d<3>)(\\d<3>)(\\d<3>)(\\d<3>)", "[24-8]", "$1 $2 $3 $4", .asAtHome⟩]

/-- The numbering plan of SG. -/
def planSG : Plan where
  region := "SG"
  code := 65
  internationalPrefix := "0[0-3]\\d"
  general := "(?:(?:1\\d|8)\\d\\d|7000)\\d<7>|[3689]\\d<7>"
  lengths := [8, 10, 11]
  kinds := [
    "662[0-24-9]\\d<4>|6(?:[0-578]\\d|6[013-57-9]|9[0-35-9])\\d<5>",
    "(?:8(?:0(?:1\\d|[2-9]\\d?)|[1-8]\\d\\d|9(?:[014]\\d|2[1-9]|3[0-489]))|9[0-8]\\d\\d)\\d<4>",
    "(?:18|8)00\\d<7>",
    "1900\\d<7>",
    "(?:3[12]\\d|666)\\d<5>",
    "7000\\d<7>"]
  layouts := [
    ⟨"(\\d<4,5>)", "1[013-9]|77", "$1", .hidden⟩,
    ⟨"(\\d<4>)(\\d<4>)", "[369]|8(?:0[1-9]|[1-9])", "$1 $2", .asAtHome⟩,
    ⟨"(\\d<3>)(\\d<3>)(\\d<4>)", "8", "$1 $2 $3", .asAtHome⟩,
    ⟨"(\\d<4>)(\\d<4>)(\\d<3>)", "7", "$1 $2 $3", .asAtHome⟩,
    ⟨"(\\d<4>)(\\d<3>)(\\d<4>)", "1", "$1 $2 $3", .asAtHome⟩]

/-- The numbering plan of MY. -/
def planMY : Plan where
  region := "MY"
  code := 60
  internationalPrefix := "00"
  nationalPrefix := "0"
  general := "1\\d<8,9>|(?:3\\d|[4-9])\\d<7>"
  lengths := [8, 9, 10]
  kinds := [
    "427[01]\\d<4>|(?:3(?:2[0-36-9]|3[0-368]|4[0-278]|5[0-24-8]|6[0-467]|7[1246-9]|8\\d|9[0-57])\\d|4(?:2[0-689]|[3-79]\\d|8[1-35689])|5(?:2[0-589]|[3468]\\d|5[0-489]|7[1-9]|9[23])|6(?:2[2-9]|3[1357-9]|[46]\\d|5[0-6]|7[0-35-9]|85|9[015-8])|7(?:[2579]\\d|3[03-68]|4[0-8]|6[5-9]|8[0-35-9])|8(?:[24][2-8]|3[2-5]|5[2-7]|6[2-589]|7[2-578]|[89][2-9])|9(?:0[57]|13|[25-7]\\d|[3489][0-8]))\\d<5>",
    "1(?:1888[689]|4400|8(?:47|8[27])[0-4])\\d<4>|1(?:0(?:[23568]\\d|4[0-6]|7[016-9]|9[0-8])|1(?:[1-5]\\d\\d|6(?:0[5-9]|[1-9]\\d)|7(?:[0-4]\\d|5[0-7]))|(?:[269]\\d|[37][1-9]|4[235-9])\\d|5(?:31|9\\d\\d)|8(?:1[23]|[236]\\d|4[06]|5(?:46|[7-9])|7[016-9]|8[01]|9[0-8]))\\d<5>",
    "1[378]00\\d<6>",
    "1600\\d<6>",
    "15(?:4(?:6[0-4]\\d|8(?:0[125]|[17]\\d|21|3[01]|4[01589]|5[014]|6[02]))|6(?:32[0-6]|78\\d))\\d<4>"]
  layouts := [
    ⟨"(\\d)(\\d<3>)(\\d<4>)", "[4-79]", "$1-$2 $3", .asAtHome⟩,
    ⟨"(\\d<2>)(\\d<3>)(\\d<3,4>)", "1(?:[02469]|[378][1-9]|53)|8", "$1-$2 $3", .asAtHome⟩,
    ⟨"(\\d)(\\d<4>)(\\d<4>)", "3", "$1-$2 $3", .asAtHome⟩,
    ⟨"(\\d)(\\d<3>)(\\d<2>)(\\d<4>)", "1(?:[367]|80)", "$1-$2-$3-$4", .asAtHome⟩,
    ⟨"(\\d<3>)(\\d<3>)(\\d<4>)", "15", "$1-$2 $3", .asAtHome⟩,
    ⟨"(\\d<2>)(\\d<4>)(\\d<4>)", "1", "$1-$2 $3", .asAtHome⟩]

/-- The numbering plan of TH. -/
def planTH : Plan where
  region := "TH"
  code := 66
  internationalPrefix := "00[1-9]"
  nationalPrefix := "0"
  general := "(?:001800|[2-57]|[689]\\d)\\d<7>|1\\d<7,9>"
  lengths := [8, 9, 10, 13]
  kinds := [
    "(?:1[0689]|2\\d|3[2-9]|4[2-5]|5[2-6]|7[3-7])\\d<6>",
    "67(?:1[0-8]|2[4-7])\\d<5>|(?:14|6[1-6]|[89]\\d)\\d<7>",
    "(?:001800\\d|1800)\\d<6>",
    "1900\\d<6>",
    "6[08]\\d<7>",
    "1\\d<7>"]
  layouts := [
    ⟨"(\\d)(\\d<3>)(\\d<4>)", "2", "$1 $2 $3", .asAtHome⟩,
    ⟨"(\\d<2>)(\\d<3>)(\\d<3,4>)", "[13-9]", "$1 $2 $3", .asAtHome⟩,
    ⟨"(\\d<4>)(\\d<3>)(\\d<3>)", "1", "$1 $2 $3", .hidden⟩]

/-- The numbering plan of VN. -/
def planVN : Plan where
  region := "VN"
  code := 84
  internationalPrefix := "00"
  nationalPrefix := "0"
  general := "[12]\\d<9>|[135-9]\\d<8>|[16]\\d<7>|[16-8]\\d<6>"
  lengths := [7, 8, 9, 10]
  kinds := [
    "2(?:0[3-9]|1[0-689]|2[0-25-9]|[38][2-9]|4[2-8]|5[124-9]|6[0-39]|7[0-7]|9[0-4679])\\d<7>",
    "(?:5(?:2[238]|59)|89[6-9]|99[013-9])\\d<6>|(?:3\\d|5[1689]|7[06-9]|8[1-8]|9[0-8])\\d<7>",
    "1800\\d<4,6>|12(?:0[13]|28)\\d<4>",
    "1900\\d<4,6>",
    "672\\d<6>",
    "(?:[17]99|80\\d)\\d<4>|69\\d<5,6>"]
  layouts := [
    ⟨"(\\d<3>)(\\d<4>)", "[17]99", "$1 $2", .hidden⟩,
    ⟨"(\\d<2>)(\\d<5>)", "80", "$1 $2", .asAtHome⟩,
    ⟨"(\\d<3>)(\\d<4>)(\\d<3>)", "69", "$1 $2 $3", .asAtHome⟩,
    ⟨"(\\d<4>)(\\d<4,6>)", "1", "$1 $2", .asAtHome⟩,
    ⟨"(\\d<2>)(\\d<3>)(\\d<2>)(\\d<2>)", "6", "$1 $2 $3 $4", .asAtHome⟩,
    ⟨"(\\d<3>)(\\d<3>)(\\d<3>)", "[357-9]", "$1 $2 $3", .asAtHome⟩,
    ⟨"(\\d<2>)(\\d<4>)(\\d<4>)", "2[48]", "$1 $2 $3", .asAtHome⟩,
    ⟨"(\\d<3>)(\\d<4>)(\\d<3>)", "2", "$1 $2 $3", .asAtHome⟩]

/-- The numbering plan of PH. -/
def planPH : Plan where
  region := "PH"
  code := 63
  internationalPrefix := "00"
  nationalPrefix := "0"
  general := "1800\\d<7,9>|(?:2|[89]\\d<4>)\\d<5>|[2-8]\\d<8>|[28]\\d<7>"
  lengths := [6, 8, 9, 10, 11, 12, 13]
  localLengths := [4, 5, 7]
  kinds := [
    "(?:(?:2[3-8]|3[2-68]|4[2-9]|5[2-6]|6[2-58]|7[24578])\\d<3>|88(?:22\\d\\d|42))\\d<4>|(?:2|8[2-8]\\d\\d)\\d<5>",
    "(?:8(?:1[37]|9[5-8])|9(?:0[5-9]|1[0-24-9]|[235-7]\\d|4[2-9]|8[135-9]|9[1-9]))\\d<7>",
    "1800\\d<7,9>"]
  layouts := [
    ⟨"(\\d)(\\d<5>)", "2", "$1 $2", .written "$1 $2"⟩,
    ⟨"(\\d<4>)(\\d<4,6>)", "3(?:23|39|46)|4(?:2[3-6]|[35]9|4[26]|76)|544|88[245]|(?:52|64|86)2", "$1 $2", .written "$1 $2"⟩,
    ⟨"(\\d<5>)(\\d<4>)", "346|4(?:27|9[35])|883", "$1 $2", .written "$1 $2"⟩,
    ⟨"(\\d)(\\d<4>)(\\d<4>)", "2", "$1 $2 $3", .written "$1 $2 $3"⟩,
    ⟨"(\\d<2>)(\\d<3>)(\\d<4>)", "[3-7]|8[2-8]", "$1 $2 $3", .written "$1 $2 $3"⟩,
    ⟨"(\\d<3>)(\\d<3>)(\\d<4>)", "[89]", "$1 $2 $3", .asAtHome⟩,
    ⟨"(\\d<4>)(\\d<3>)(\\d<4>)", "1", "$1 $2 $3", .asAtHome⟩,
    ⟨"(\\d<4>)(\\d<1,2>)(\\d<3>)(\\d<4>)", "1", "$1 $2 $3 $4", .asAtHome⟩]

/-- The numbering plan of ID. -/
def planID : Plan where
  region := "ID"
  code := 62
  internationalPrefix := "00[89]"
  nationalPrefix := "0"
  general := "00[1-9]\\d<9,14>|(?:[1-36]|8\\d<5>)\\d<6>|00\\d<9>|[1-9]\\d<8,10>|[2-9]\\d<7>"
  lengths := [7, 8, 9, 10, 11, 12, 13, 14, 15, 16, 17]
  localLengths := [5, 6]
  kinds := [
    "2[124]\\d<7,8>|619\\d<8>|2(?:1(?:14|500)|2\\d<3>)\\d<3>|61\\d<5,8>|(?:2(?:[35][1-4]|6[0-8]|7[1-6]|8\\d|9[1-8])|3(?:1|[25][1-8]|3[1-68]|4[1-3]|6[1-3568]|7[0-469]|8\\d)|4(?:0[1-589]|1[01347-9]|2[0-36-8]|3[0-24-68]|43|5[1-378]|6[1-5]|7[134]|8[1245])|5(?:1[1-35-9]|2[25-8]|3[124-9]|4[1-3589]|5[1-46]|6[1-8])|6(?:[25]\\d|3[1-69]|4[1-6])|7(?:02|[125][1-9]|[36]\\d|4[1-8]|7[0-36-9])|9(?:0[12]|1[013-8]|2[0-479]|5[125-8]|6[23679]|7[159]|8[01346]))\\d<5,8>",
    "8[1-35-9]\\d<7,10>",
    "00(?:1803\\d<5,11>|7803\\d<7>)|(?:177\\d|800)\\d<5,7>",
    "809\\d<7>",
    "804\\d<7>",
    "(?:1500|8071\\d<3>)\\d<3>"]
  layouts := [
    ⟨"(\\d)(\\d<3>)(\\d<3>)", "15", "$1 $2 $3", .asAtHome⟩,
    ⟨"(\\d<2>)(\\d<5,9>)", "2[124]|[36]1", "$1 $2", .asAtHome⟩,
    ⟨"(\\d<3>)(\\d<5,7>)", "800", "$1 $2", .asAtHome⟩,
    ⟨"(\\d<3>)(\\d<5,8>)", "[2-79]", "$1 $2", .asAtHome⟩,
    ⟨"(\\d<3>)(\\d<3,4>)(\\d<3>)", "8[1-35-9]", "$1-$2-$3", .asAtHome⟩,
    ⟨"(\\d<3>)(\\d<6,8>)", "1", "$1 $2", .asAtHome⟩,
    ⟨"(\\d<3>)(\\d<3>)(\\d<4>)", "804", "$1 $2 $3", .asAtHome⟩,
    ⟨"(\\d<3>)(\\d)(\\d<3>)(\\d<3>)", "80", "$1 $2 $3 $4", .asAtHome⟩,
    ⟨"(\\d<3>)(\\d<4>)(\\d<4,5>)", "8", "$1-$2-$3", .asAtHome⟩]

/-- The numbering plan of AE. -/
def planAE : Plan where
  region := "AE"
  code := 971
  internationalPrefix := "00"
  nationalPrefix := "0"
  general := "(?:[4-7]\\d|9[0-689])\\d<7>|800\\d<2,9>|[2-4679]\\d<7>"
  lengths := [5, 6, 7, 8, 9, 10, 11, 12]
  kinds := [
    "[2-4679][2-8]\\d<6>",
    "5[024-68]\\d<7>",
    "400\\d<6>|800\\d<2,9>",
    "900[02]\\d<5>",
    "700[05]\\d<5>",
    "600[25]\\d<5>"]
  layouts := [
    ⟨"(\\d<3>)(\\d<2,9>)", "60|8", "$1 $2", .asAtHome⟩,
    ⟨"(\\d)(\\d<3>)(\\d<4>)", "[236]|[479][2-8]", "$1 $2 $3", .asAtHome⟩,
    ⟨"(\\d<3>)(\\d)(\\d<5>)", "[479]", "$1 $2 $3", .asAtHome⟩,
    ⟨"(\\d<2>)(\\d<3>)(\\d<4>)", "5", "$1 $2 $3", .asAtHome⟩]

/-- The numbering plan of SA. -/
def planSA : Plan where
  region := "SA"
  code := 966
  internationalPrefix := "00"
  nationalPrefix := "0"
  general := "92\\d<7>|(?:[15]|8\\d)\\d<8>"
  lengths := [9, 10]
  localLengths := [7]
  kinds := [
    "1(?:1\\d|2[24-8]|3[35-8]|4[3-68]|6[2-5]|7[235-7])\\d<6>",
    "579[01]\\d<5>|5(?:[013-689]\\d|7[0-8])\\d<6>",
    "800\\d<7>",
    "925\\d<6>",
    "920\\d<6>",
    "811\\d<7>"]
  layouts := [
    ⟨"(\\d<4>)(\\d<5>)", "9", "$1 $2", .asAtHome⟩,
    ⟨"(\\d)(\\d<3>)(\\d<4>)", "1", "$1 $2 $3", .asAtHome⟩,
    ⟨"(\\d<2>)(\\d<3>)(\\d<4>)", "5", "$1 $2 $3", .asAtHome⟩,
    ⟨"(\\d<3>)(\\d<3>)(\\d<3,4>)", "81", "$1 $2 $3", .asAtHome⟩,
    ⟨"(\\d<3>)(\\d<3>)(\\d<4>)", "8", "$1 $2 $3", .asAtHome⟩]

/-- The numbering plan of IL. -/
def planIL : Plan where
  region := "IL"
  code := 972
  internationalPrefix := "0(?:0|1[2-9])"
  nationalPrefix := "0"
  general := "1\\d<6>(?:\\d<3,5>)?|[57]\\d<8>|[1-489]\\d<7>"
  lengths := [7, 8, 9, 10, 11, 12]
  kinds := [
    "153\\d<8,9>|29[1-9]\\d<5>|(?:2[0-8]|[3489]\\d)\\d<6>",
    "55(?:4(?:0[0-2]|[16]0)|57[0-289])\\d<4>|5(?:(?:[0-2][02-9]|[36]\\d|[49][2-9]|8[3-7])\\d|5(?:01|2\\d|3[0-3]|4[34]|5[0-25689]|6[6-8]|7[0-267]|8[7-9]|9[1-9]))\\d<5>",
    "1(?:255|80[019]\\d<3>)\\d<3>",
    "1212\\d<4>|1(?:200|9(?:0[0-2]|19))\\d<6>",
    "1700\\d<6>",
    "7(?:38(?:0\\d|5[09]|88)|8(?:33|55|77|81)\\d)\\d<4>|7(?:18|2[23]|3[237]|47|6[258]|7\\d|82|9[2-9])\\d<6>",
    "1599\\d<6>",
    "151\\d<8,9>"]
  layouts := [
    ⟨"(\\d<4>)(\\d<3>)", "125", "$1-$2", .asAtHome⟩,
    ⟨"(\\d<4>)(\\d<2>)(\\d<2>)", "121", "$1-$2-$3", .asAtHome⟩,
    ⟨"(\\d)(\\d<3>)(\\d<4>)", "[2-489]", "$1-$2-$3", .asAtHome⟩,
    ⟨"(\\d<2>)(\\d<3>)(\\d<4>)", "[57]", "$1-$2-$3", .asAtHome⟩,
    ⟨"(\\d<4>)(\\d<3>)(\\d<3>)", "12", "$1-$2-$3", .asAtHome⟩,
    ⟨"(\\d<4>)(\\d<6>)", "159", "$1-$2", .asAtHome⟩,
    ⟨"(\\d)(\\d<3>)(\\d<3>)(\\d<3>)", "1[7-9]", "$1-$2-$3-$4", .asAtHome⟩,
    ⟨"(\\d<3>)(\\d<1,2>)(\\d<3>)(\\d<4>)", "15", "$1 $2 $3 $4", .asAtHome⟩]

/-- The plans of Asia. -/
def asia : List Plan :=
  [planJP, planCN, planHK, planTW, planKR, planIN, planPK, planSG, planMY, planTH, planVN, planPH,
   planID, planAE, planSA, planIL]

end Phone

end VCard
