import VCard.Phone.Plan
/-! Numbering plans of western Europe. -/
namespace VCard

namespace Phone

/-- The numbering plan of GB. -/
def planGB : Plan where
  region := "GB"
  code := 44
  internationalPrefix := "00"
  nationalPrefix := "0"
  general := "[1-357-9]\\d<9>|[18]\\d<8>|8\\d<6>"
  lengths := [7, 9, 10]
  localLengths := [4, 5, 6, 8]
  kinds := [
    "(?:1(?:1(?:3(?:[0-58]\\d\\d|73[0-35])|4(?:(?:[0-5]\\d|70)\\d|69[7-9])|(?:(?:5[0-26-9]|[78][0-49])\\d|6(?:[0-4]\\d|50))\\d)|(?:2(?:(?:0[024-9]|2[3-9]|3[3-79]|4[1-689]|[58][02-9]|6[0-47-9]|7[013-9]|9\\d)\\d|1(?:[0-7]\\d|8[0-3]))|(?:3(?:0\\d|1[0-8]|[25][02-9]|3[02-579]|[468][0-46-9]|7[1-35-79]|9[2-578])|4(?:0[03-9]|[137]\\d|[28][02-57-9]|4[02-69]|5[0-8]|[69][0-79])|5(?:0[1-35-9]|[16]\\d|2[024-9]|3[015689]|4[02-9]|5[03-9]|7[0-35-9]|8[0-468]|9[0-57-9])|6(?:0[034689]|1\\d|2[0-35689]|[38][013-9]|4[1-467]|5[0-69]|6[13-9]|7[0-8]|9[0-24578])|7(?:0[0246-9]|2\\d|3[0236-8]|4[03-9]|5[0-46-9]|6[013-9]|7[0-35-9]|8[024-9]|9[02-9])|8(?:0[35-9]|2[1-57-9]|3[02-578]|4[0-578]|5[124-9]|6[2-69]|7\\d|8[02-9]|9[02569])|9(?:0[02-589]|[18]\\d|2[02-689]|3[1-57-9]|4[2-9]|5[0-579]|6[2-47-9]|7[0-24578]|9[2-57]))\\d)\\d)|2(?:0[013478]|3[0189]|4[017]|8[0-46-9]|9[0-2])\\d<3>)\\d<4>|1(?:2(?:0(?:46[1-4]|87[2-9])|545[1-79]|76(?:2\\d|3[1-8]|6[1-6])|9(?:7(?:2[0-4]|3[2-5])|8(?:2[2-8]|7[0-47-9]|8[3-5])))|3(?:6(?:38[2-5]|47[23])|8(?:47[04-9]|64[0157-9]))|4(?:044[1-7]|20(?:2[23]|8\\d)|6(?:0(?:30|5[2-57]|6[1-8]|7[2-8])|140)|8(?:052|87[1-3]))|5(?:2(?:4(?:3[2-79]|6\\d)|76\\d)|6(?:26[06-9]|686))|6(?:06(?:4\\d|7[4-79])|295[5-7]|35[34]\\d|47(?:24|61)|59(?:5[08]|6[67]|74)|9(?:55[0-4]|77[23]))|7(?:26(?:6[13-9]|7[0-7])|(?:442|688)\\d|50(?:2[0-3]|[3-68]2|76))|8(?:27[56]\\d|37(?:5[2-5]|8[239])|843[2-58])|9(?:0(?:0(?:6[1-8]|85)|52\\d)|3583|4(?:66[1-8]|9(?:2[01]|81))|63(?:23|3[1-4])|9561))\\d<3>",
    "7(?:457[0-57-9]|700[01]|911[028])\\d<5>|7(?:[1-3]\\d\\d|4(?:[0-46-9]\\d|5[0-689])|5(?:0[0-8]|[13-9]\\d|2[0-35-9])|7(?:0[1-9]|[1-7]\\d|8[02-9]|9[0-689])|8(?:[014-9]\\d|[23][0-8])|9(?:[024-9]\\d|1[02-9]|3[0-689]))\\d<6>",
    "76(?:464|652)\\d<5>|76(?:0[0-28]|2[356]|34|4[01347]|5[49]|6[0-369]|77|8[14]|9[139])\\d<6>",
    "80[08]\\d<7>|800\\d<6>|8001111",
    "(?:8(?:4[2-5]|7[0-3])|9(?:[01]\\d|8[2-49]))\\d<7>|845464\\d",
    "70\\d<8>",
    "56\\d<8>",
    "(?:3[0347]|55)\\d<8>"]
  layouts := [
    ⟨"(\\d<3>)(\\d<4>)", "8001111", "$1 $2", .asAtHome⟩,
    ⟨"(\\d<3>)(\\d<2>)(\\d<2>)", "845464", "$1 $2 $3", .asAtHome⟩,
    ⟨"(\\d<3>)(\\d<6>)", "800", "$1 $2", .asAtHome⟩,
    ⟨"(\\d<5>)(\\d<4,5>)", "1(?:3873|5(?:242|39[4-6])|(?:697|768)[347]|9467)", "$1 $2", .asAtHome⟩,
    ⟨"(\\d<4>)(\\d<5,6>)", "1(?:[2-69][02-9]|[78])", "$1 $2", .asAtHome⟩,
    ⟨"(\\d<2>)(\\d<4>)(\\d<4>)", "[25]|7(?:0|6(?:[03-9]|2[356]))", "$1 $2 $3", .asAtHome⟩,
    ⟨"(\\d<4>)(\\d<6>)", "7", "$1 $2", .asAtHome⟩,
    ⟨"(\\d<3>)(\\d<3>)(\\d<4>)", "[1389]", "$1 $2 $3", .asAtHome⟩]

/-- The numbering plan of GG. -/
def planGG : Plan where
  region := "GG"
  code := 44
  internationalPrefix := "00"
  nationalPrefix := "([25-9]\\d<5>)$|0"
  transform := "1481$1"
  leadingDigits := "1481|7(?:781|839|911)"
  general := "(?:1481|[357-9]\\d<3>)\\d<6>|8\\d<6>(?:\\d<2>)?"
  lengths := [7, 9, 10]
  localLengths := [6]
  kinds := [
    "1481[25-9]\\d<5>",
    "7(?:(?:781|839)\\d|911[17])\\d<5>",
    "76(?:464|652)\\d<5>|76(?:0[0-28]|2[356]|34|4[01347]|5[49]|6[0-369]|77|8[14]|9[139])\\d<6>",
    "80[08]\\d<7>|800\\d<6>",
    "(?:8(?:4[2-5]|7[0-3])|9(?:[01]\\d|8[0-3]))\\d<7>|845464\\d",
    "70\\d<8>",
    "56\\d<8>",
    "(?:3(?:0(?:07(?:35|81)|8901)|3\\d<4>|4(?:4(?:4(?:05|42|69)|703)|5(?:041|800))|7(?:0002|1206))|55\\d<4>)\\d<4>"]

/-- The numbering plan of IM. -/
def planIM : Plan where
  region := "IM"
  code := 44
  internationalPrefix := "00"
  nationalPrefix := "([25-8]\\d<5>)$|0"
  transform := "1624$1"
  leadingDigits := "74576|(?:16|7[56])24"
  general := "1624\\d<6>|(?:[3578]\\d|90)\\d<8>"
  lengths := [10]
  localLengths := [6]
  kinds := [
    "1624(?:230|[5-8]\\d\\d)\\d<3>",
    "76245[06]\\d<4>|7(?:4576|[59]24\\d|624[0-4689])\\d<5>",
    "808162\\d<4>",
    "8(?:440[49]06|72299\\d)\\d<3>|(?:8(?:45|70)|90[0167])624\\d<4>",
    "70\\d<8>",
    "56\\d<8>",
    "3440[49]06\\d<3>|(?:3(?:08162|3\\d<4>|45624|7(?:0624|2299))|55\\d<4>)\\d<4>"]

/-- The numbering plan of JE. -/
def planJE : Plan where
  region := "JE"
  code := 44
  internationalPrefix := "00"
  nationalPrefix := "([0-24-8]\\d<5>)$|0"
  transform := "1534$1"
  leadingDigits := "1534|7(?:509|7(?:00|97)|829|937)"
  general := "1534\\d<6>|(?:[3578]\\d|90)\\d<8>"
  lengths := [10]
  localLengths := [6]
  kinds := [
    "1534[0-24-8]\\d<5>",
    "7(?:(?:(?:50|82)9|937)\\d|7(?:00[378]|97\\d))\\d<5>",
    "76(?:464|652)\\d<5>|76(?:0[0-28]|2[356]|34|4[01347]|5[49]|6[0-369]|77|8[14]|9[139])\\d<6>",
    "80(?:07(?:35|81)|8901)\\d<4>",
    "(?:8(?:4(?:4(?:4(?:05|42|69)|703)|5(?:041|800))|7(?:0002|1206))|90(?:066[59]|1810|71(?:07|55)))\\d<4>",
    "701511\\d<4>",
    "56\\d<8>",
    "(?:3(?:0(?:07(?:35|81)|8901)|3\\d<4>|4(?:4(?:4(?:05|42|69)|703)|5(?:041|800))|7(?:0002|1206))|55\\d<4>)\\d<4>"]

/-- The numbering plan of IE. -/
def planIE : Plan where
  region := "IE"
  code := 353
  internationalPrefix := "00"
  nationalPrefix := "0"
  general := "(?:1\\d|[2569])\\d<6,8>|4\\d<6,9>|7\\d<8>|8\\d<8,9>"
  lengths := [7, 8, 9, 10]
  localLengths := [5, 6]
  kinds := [
    "(?:1\\d|21)\\d<6,7>|(?:2[24-9]|4(?:0[24]|5\\d|7)|5(?:0[45]|1\\d|8)|6(?:1\\d|[237-9])|9(?:1\\d|[35-9]))\\d<5>|(?:23|4(?:[1-469]|8\\d)|5[23679]|6[4-6]|7[14]|9[04])\\d<7>",
    "8(?:22|[35-9]\\d)\\d<6>",
    "1800\\d<6>",
    "15(?:1[2-8]|[2-8]0|9[089])\\d<6>",
    "18[59]0\\d<6>",
    "700\\d<6>",
    "76\\d<7>",
    "818\\d<6>",
    "88210[1-9]\\d<4>|8(?:[35-79]5\\d\\d|8(?:[013-9]\\d\\d|2(?:[01][1-9]|[2-9]\\d)))\\d<5>"]
  layouts := [
    ⟨"(\\d<2>)(\\d<5>)", "2[24-9]|47|58|6[237-9]|9[35-9]", "$1 $2", .asAtHome⟩,
    ⟨"(\\d<3>)(\\d<5>)", "[45]0", "$1 $2", .asAtHome⟩,
    ⟨"(\\d<1>)(\\d<3,4>)(\\d<4>)", "1", "$1 $2 $3", .asAtHome⟩,
    ⟨"(\\d<2>)(\\d<3>)(\\d<3,4>)", "[2569]|4[1-69]|7[14]", "$1 $2 $3", .asAtHome⟩,
    ⟨"(\\d<3>)(\\d<3>)(\\d<3>)", "70", "$1 $2 $3", .asAtHome⟩,
    ⟨"(\\d<3>)(\\d<3>)(\\d<3>)", "81", "$1 $2 $3", .asAtHome⟩,
    ⟨"(\\d<2>)(\\d<3>)(\\d<4>)", "[78]", "$1 $2 $3", .asAtHome⟩,
    ⟨"(\\d<4>)(\\d<3>)(\\d<3>)", "1", "$1 $2 $3", .asAtHome⟩,
    ⟨"(\\d<2>)(\\d<4>)(\\d<4>)", "4", "$1 $2 $3", .asAtHome⟩]

/-- The numbering plan of FR. -/
def planFR : Plan where
  region := "FR"
  code := 33
  internationalPrefix := "00"
  nationalPrefix := "0"
  general := "[1-9]\\d<8>"
  lengths := [9]
  kinds := [
    "(?:26[013-9]|59[1-35-9])\\d<6>|(?:[13]\\d|2[0-57-9]|4[1-9]|5[0-8])\\d<7>",
    "(?:6(?:[0-24-8]\\d|3[0-8]|9[589])|7[3-9]\\d)\\d<6>",
    "80[0-5]\\d<6>",
    "836(?:0[0-36-9]|[1-9]\\d)\\d<4>|8(?:1[2-9]|2[2-47-9]|3[0-57-9]|[569]\\d|8[0-35-9])\\d<6>",
    "8(?:1[01]|2[0156]|4[024]|84)\\d<6>",
    "9\\d<8>",
    "80[6-9]\\d<6>"]
  layouts := [
    ⟨"(\\d<4>)", "10", "$1", .hidden⟩,
    ⟨"(\\d<1>)(\\d<2>)(\\d<2>)(\\d<2>)(\\d<2>)", "[1-79]", "$1 $2 $3 $4 $5", .asAtHome⟩,
    ⟨"(\\d<3>)(\\d<2>)(\\d<2>)(\\d<2>)", "8", "$1 $2 $3 $4", .asAtHome⟩]

/-- The numbering plan of BE. -/
def planBE : Plan where
  region := "BE"
  code := 32
  internationalPrefix := "00"
  nationalPrefix := "0"
  general := "4\\d<8>|[1-9]\\d<7>"
  lengths := [8, 9]
  kinds := [
    "80[2-8]\\d<5>|(?:1[0-69]|[23][2-8]|4[23]|5\\d|6[013-57-9]|71|8[1-79]|9[2-4])\\d<6>",
    "4[5-9]\\d<7>",
    "800[1-9]\\d<4>",
    "(?:70(?:2[0-57]|3[04-7]|44|69|7[0579])|90\\d\\d)\\d<4>",
    "78(?:0[578]|1[014-8]|2[25]|3[15-8]|48|5[05]|60|7[06]|8[04])\\d<4>"]
  layouts := [
    ⟨"(\\d<3>)(\\d<2>)(\\d<3>)", "(?:80|9)0", "$1 $2 $3", .asAtHome⟩,
    ⟨"(\\d)(\\d<3>)(\\d<2>)(\\d<2>)", "[239]|4[23]", "$1 $2 $3 $4", .asAtHome⟩,
    ⟨"(\\d<2>)(\\d<2>)(\\d<2>)(\\d<2>)", "[15-8]", "$1 $2 $3 $4", .asAtHome⟩,
    ⟨"(\\d<3>)(\\d<2>)(\\d<2>)(\\d<2>)", "4", "$1 $2 $3 $4", .asAtHome⟩]

/-- The numbering plan of LU. -/
def planLU : Plan where
  region := "LU"
  code := 352
  internationalPrefix := "00"
  nationalPrefix := "(15(?:0[06]|1[12]|[35]5|4[04]|6[26]|77|88|99)\\d)"
  general := "35[013-9]\\d<4,8>|6\\d<8>|35\\d<2,4>|(?:[2457-9]\\d|3[0-46-9])\\d<2,9>"
  lengths := [4, 5, 6, 7, 8, 9, 10, 11]
  kinds := [
    "(?:35[013-9]|80[2-9]|90[89])\\d<1,8>|(?:2[2-9]|3[0-46-9]|[457]\\d|8[13-9]|9[2-579])\\d<2,9>",
    "6(?:[269][18]|5[1568]|7[189]|81)\\d<6>",
    "800\\d<5>",
    "90[015]\\d<5>",
    "801\\d<5>",
    "20(?:1\\d<5>|[2-689]\\d<1,7>)",
    "70\\d<6>"]
  layouts := [
    ⟨"(\\d<2>)(\\d<3>)", "2(?:0[2-689]|[2-9])|[3-57]|8(?:0[2-9]|[13-9])|9(?:0[89]|[2-579])", "$1 $2", .asAtHome⟩,
    ⟨"(\\d<2>)(\\d<2>)(\\d<2>)", "2(?:0[2-689]|[2-9])|[3-57]|8(?:0[2-9]|[13-9])|9(?:0[89]|[2-579])", "$1 $2 $3", .asAtHome⟩,
    ⟨"(\\d<2>)(\\d<2>)(\\d<3>)", "20[2-689]", "$1 $2 $3", .asAtHome⟩,
    ⟨"(\\d<2>)(\\d<2>)(\\d<2>)(\\d<1,2>)", "2(?:[0367]|4[3-8])", "$1 $2 $3 $4", .asAtHome⟩,
    ⟨"(\\d<3>)(\\d<2>)(\\d<3>)", "80[01]|90[015]", "$1 $2 $3", .asAtHome⟩,
    ⟨"(\\d<2>)(\\d<2>)(\\d<2>)(\\d<3>)", "20", "$1 $2 $3 $4", .asAtHome⟩,
    ⟨"(\\d<3>)(\\d<3>)(\\d<3>)", "6", "$1 $2 $3", .asAtHome⟩,
    ⟨"(\\d<2>)(\\d<2>)(\\d<2>)(\\d<2>)(\\d<1,2>)", "2(?:[0367]|4[3-8])", "$1 $2 $3 $4 $5", .asAtHome⟩,
    ⟨"(\\d<2>)(\\d<2>)(\\d<2>)(\\d<1,5>)", "[3-57]|8[13-9]|9(?:0[89]|[2-579])|(?:2|80)[2-9]", "$1 $2 $3 $4", .asAtHome⟩]

/-- The numbering plan of NL. -/
def planNL : Plan where
  region := "NL"
  code := 31
  internationalPrefix := "00"
  nationalPrefix := "0"
  general := "(?:[124-7]\\d\\d|3(?:[02-9]\\d|1[0-8]))\\d<6>|8\\d<6,9>|9\\d<6,10>|1\\d<4,5>"
  lengths := [5, 6, 7, 8, 9, 10, 11]
  kinds := [
    "(?:1(?:[035]\\d|1[13-578]|6[124-8]|7[24]|8[0-467])|2(?:[0346]\\d|2[2-46-9]|5[125]|9[479])|3(?:[03568]\\d|1[3-8]|2[01]|4[1-8])|4(?:[0356]\\d|1[1-368]|7[58]|8[15-8]|9[23579])|5(?:[0358]\\d|[19][1-9]|2[1-57-9]|4[13-8]|6[126]|7[0-3578])|7\\d\\d)\\d<6>",
    "(?:6[1-58]|970\\d)\\d<7>",
    "66\\d<7>",
    "800\\d<4,7>",
    "90[069]\\d<4,7>",
    "140(?:1[035]|2[0346]|3[03568]|4[0356]|5[0358]|8[458])|(?:140(?:1[16-8]|2[259]|3[124]|4[17-9]|5[124679]|7)|8[478]\\d<6>)\\d",
    "(?:85|91)\\d<7>"]
  layouts := [
    ⟨"(\\d<3>)(\\d<4,7>)", "[89]0", "$1 $2", .asAtHome⟩,
    ⟨"(\\d<2>)(\\d<7>)", "66", "$1 $2", .asAtHome⟩,
    ⟨"(\\d<1>)(\\d<8>)", "6", "$1 $2", .asAtHome⟩,
    ⟨"(\\d<3>)(\\d<3>)(\\d<3>)", "1[16-8]|2[259]|3[124]|4[17-9]|5[124679]", "$1 $2 $3", .asAtHome⟩,
    ⟨"(\\d<2>)(\\d<3>)(\\d<4>)", "[1-578]|91", "$1 $2 $3", .asAtHome⟩,
    ⟨"(\\d<3>)(\\d<3>)(\\d<5>)", "9", "$1 $2 $3", .asAtHome⟩]

/-- The numbering plan of DE. -/
def planDE : Plan where
  region := "DE"
  code := 49
  internationalPrefix := "00"
  nationalPrefix := "0"
  general := "[2579]\\d<5,14>|49(?:[34]0|69|8\\d)\\d\\d?|49(?:37|49|60|7[089]|9\\d)\\d<1,3>|49(?:2[024-9]|3[2-689]|7[1-7])\\d<1,8>|(?:1|[368]\\d|4[0-8])\\d<3,13>|49(?:[015]\\d|2[13]|31|[46][1-8])\\d<1,9>"
  lengths := [4, 5, 6, 7, 8, 9, 10, 11, 12, 13, 14, 15]
  localLengths := [2, 3]
  kinds := [
    "32\\d<9,11>|49[1-6]\\d<10>|322\\d<6>|49[0-7]\\d<3,9>|(?:[34]0|[68]9)\\d<3,13>|(?:2(?:0[1-689]|[1-3569]\\d|4[0-8]|7[1-7]|8[0-7])|3(?:[3569]\\d|4[0-79]|7[1-7]|8[1-8])|4(?:1[02-9]|[2-48]\\d|5[0-6]|6[0-8]|7[0-79])|5(?:0[2-8]|[124-6]\\d|[38][0-8]|[79][0-7])|6(?:0[02-9]|[1-358]\\d|[47][0-8]|6[1-9])|7(?:0[2-8]|1[1-9]|[27][0-7]|3\\d|[4-6][0-8]|8[0-5]|9[013-7])|8(?:0[2-9]|1[0-79]|2\\d|3[0-46-9]|4[0-6]|5[013-9]|6[1-8]|7[0-8]|8[0-24-6])|9(?:0[6-9]|[1-4]\\d|[589][0-7]|6[0-8]|7[0-467]))\\d<3,12>",
    "15(?:[0-25-9]\\d<8>|310\\d<6>)|1(?:6[023]|7\\d)\\d<7,8>",
    "16(?:4\\d<1,10>|[89]\\d<1,11>)",
    "800\\d<7,12>",
    "(?:137[7-9]|900(?:[135]|9\\d))\\d<6>",
    "700\\d<8>",
    "180\\d<5,11>|13(?:7[1-6]\\d\\d|8)\\d<4>",
    "18(?:1\\d<5,11>|[2-9]\\d<8>)",
    "1(?:6(?:013|255|399)|7(?:(?:[015]1|[69]3)3|[2-4]55|[78]99))\\d<7,8>|15(?:(?:[03-68]00|113)\\d|2\\d55|7\\d99|9\\d33)\\d<7>"]
  layouts := [
    ⟨"(\\d<2>)(\\d<3,13>)", "3[02]|40|[68]9", "$1 $2", .asAtHome⟩,
    ⟨"(\\d<3>)(\\d<3,12>)", "2(?:0[1-389]|12[0-8])|3(?:[35-9][15]|4[015])|906|2(?:[13][14]|2[18])|(?:2[4-9]|4[2-9]|[579][1-9]|[68][1-8])1", "$1 $2", .asAtHome⟩,
    ⟨"(\\d<4>)(\\d<2,11>)", "[24-6]|3(?:3(?:0[1-467]|2[127-9]|3[124578]|7[1257-9]|8[1256]|9[145])|4(?:2[135]|4[13578]|9[1346])|5(?:0[14]|2[1-3589]|6[1-4]|7[13468]|8[13568])|6(?:2[1-489]|3[124-6]|6[13]|7[12579]|8[1-356]|9[135])|7(?:2[1-7]|4[145]|6[1-5]|7[1-4])|8(?:21|3[1468]|6|7[1467]|8[136])|9(?:0[12479]|2[1358]|4[134679]|6[1-9]|7[136]|8[147]|9[1468]))|70[2-8]|8(?:0[2-9]|[1-8])|90[7-9]|[79][1-9]", "$1 $2", .asAtHome⟩,
    ⟨"(\\d<5>)(\\d<1,10>)", "3", "$1 $2", .asAtHome⟩,
    ⟨"(\\d<3>)(\\d<5,11>)", "181", "$1 $2", .asAtHome⟩,
    ⟨"(\\d<3>)(\\d)(\\d<4,10>)", "1(?:3|80)|9", "$1 $2 $3", .asAtHome⟩,
    ⟨"(\\d<3>)(\\d<7,8>)", "1[67]", "$1 $2", .asAtHome⟩,
    ⟨"(\\d<3>)(\\d<7,12>)", "8", "$1 $2", .asAtHome⟩,
    ⟨"(\\d<5>)(\\d<6>)", "18500", "$1 $2", .asAtHome⟩,
    ⟨"(\\d<3>)(\\d<4>)(\\d<4>)", "7", "$1 $2 $3", .asAtHome⟩,
    ⟨"(\\d<4>)(\\d<7>)", "18[68]", "$1 $2", .asAtHome⟩,
    ⟨"(\\d<4>)(\\d<7>)", "15[1279]", "$1 $2", .asAtHome⟩,
    ⟨"(\\d<5>)(\\d<6>)", "15(?:[0568]|31)", "$1 $2", .asAtHome⟩,
    ⟨"(\\d<3>)(\\d<8>)", "18", "$1 $2", .asAtHome⟩,
    ⟨"(\\d<3>)(\\d<2>)(\\d<7,8>)", "1(?:6[023]|7)", "$1 $2 $3", .asAtHome⟩,
    ⟨"(\\d<4>)(\\d<2>)(\\d<7>)", "15[279]", "$1 $2 $3", .asAtHome⟩,
    ⟨"(\\d<3>)(\\d<2>)(\\d<8>)", "15", "$1 $2 $3", .asAtHome⟩]

/-- The numbering plan of CH. -/
def planCH : Plan where
  region := "CH"
  code := 41
  internationalPrefix := "00"
  nationalPrefix := "0"
  general := "8\\d<11>|[2-9]\\d<8>"
  lengths := [9, 12]
  kinds := [
    "(?:2[12467]|3[1-4]|4[134]|5[256]|6[12]|[7-9]1)\\d<7>",
    "(?:6[89]|7[235-9])\\d<7>",
    "800\\d<6>",
    "90[016]\\d<6>",
    "84[0248]\\d<6>",
    "878\\d<6>",
    "74[0248]\\d<6>",
    "5[18]\\d<7>",
    "860\\d<9>"]
  layouts := [
    ⟨"(\\d<3>)(\\d<3>)(\\d<3>)", "8[047]|90", "$1 $2 $3", .asAtHome⟩,
    ⟨"(\\d<2>)(\\d<3>)(\\d<2>)(\\d<2>)", "[2-79]|81", "$1 $2 $3 $4", .asAtHome⟩,
    ⟨"(\\d<3>)(\\d<2>)(\\d<3>)(\\d<2>)(\\d<2>)", "8", "$1 $2 $3 $4 $5", .asAtHome⟩]

/-- The numbering plan of AT. -/
def planAT : Plan where
  region := "AT"
  code := 43
  internationalPrefix := "00"
  nationalPrefix := "0"
  general := "1\\d<3,12>|2\\d<6,12>|43(?:(?:0\\d|5[02-9])\\d<3,9>|2\\d<4,5>|[3467]\\d<4>|8\\d<4,6>|9\\d<4,7>)|5\\d<4,12>|8\\d<7,12>|9\\d<8,12>|(?:[367]\\d|4[0-24-9])\\d<4,11>"
  lengths := [4, 5, 6, 7, 8, 9, 10, 11, 12, 13]
  localLengths := [3]
  kinds := [
    "1(?:11\\d|[2-9]\\d<3,11>)|(?:316|463|(?:51|66|73)2)\\d<3,10>|(?:2(?:1[467]|2[13-8]|5[2357]|6[1-46-8]|7[1-8]|8[124-7]|9[1458])|3(?:1[1-578]|3[23568]|4[5-7]|5[1378]|6[1-38]|8[3-68])|4(?:2[1-8]|35|7[1368]|8[2457])|5(?:2[1-8]|3[357]|4[147]|5[12578]|6[37])|6(?:13|2[1-47]|4[135-8]|5[468])|7(?:2[1-8]|35|4[13478]|5[68]|6[16-8]|7[1-6]|9[45]))\\d<4,10>",
    "6(?:5[0-3579]|6[013-9]|[7-9]\\d)\\d<4,10>",
    "800\\d<6,10>",
    "(?:8[69][2-68]|9(?:0[01]|3[019]))\\d<6,10>",
    "8(?:10|2[018])\\d<6,10>|828\\d<5>",
    "5(?:0[1-9]|17|[79]\\d)\\d<2,10>|7[28]0\\d<6,10>"]
  layouts := [
    ⟨"(\\d<4>)", "1(?:11|[2-9])", "$1", .hidden⟩,
    ⟨"(\\d)(\\d<3,12>)", "1(?:11|[2-9])", "$1 $2", .asAtHome⟩,
    ⟨"(\\d<3>)(\\d<2>)", "517", "$1 $2", .asAtHome⟩,
    ⟨"(\\d<2>)(\\d<3,5>)", "5[079]", "$1 $2", .asAtHome⟩,
    ⟨"(\\d<6>)", "[18]", "$1", .hidden⟩,
    ⟨"(\\d<3>)(\\d<3,10>)", "(?:31|4)6|51|6(?:485|5[0-3579]|[6-9])|7(?:20|32|8)|[89]", "$1 $2", .asAtHome⟩,
    ⟨"(\\d<4>)(\\d<3,9>)", "[2-467]|5[2-6]", "$1 $2", .asAtHome⟩,
    ⟨"(\\d<2>)(\\d<3>)(\\d<3,4>)", "5", "$1 $2 $3", .asAtHome⟩,
    ⟨"(\\d<2>)(\\d<4>)(\\d<4,7>)", "5", "$1 $2 $3", .asAtHome⟩]

/-- The numbering plan of IT. -/
def planIT : Plan where
  region := "IT"
  code := 39
  internationalPrefix := "00"
  general := "0\\d<5,10>|1\\d<8,10>|3(?:[0-8]\\d<7,10>|9\\d<7,8>)|(?:43|55|70)\\d<8>|8\\d<5>(?:\\d<2,4>)?"
  lengths := [6, 7, 8, 9, 10, 11, 12]
  kinds := [
    "0669[0-79]\\d<1,6>|0(?:1(?:[0159]\\d|[27][1-5]|31|4[1-4]|6[1356]|8[2-57])|2\\d\\d|3(?:[0159]\\d|2[1-4]|3[12]|[48][1-6]|6[2-59]|7[1-7])|4(?:[0159]\\d|[23][1-9]|4[245]|6[1-5]|7[1-4]|81)|5(?:[0159]\\d|2[1-5]|3[2-6]|4[1-79]|6[4-6]|7[1-578]|8[3-8])|6(?:[0-57-9]\\d|6[0-8])|7(?:[0159]\\d|2[12]|3[1-7]|4[2-46]|6[13569]|7[13-6]|8[1-59])|8(?:[0159]\\d|2[3-578]|3[1-356]|[6-8][1-5])|9(?:[0159]\\d|[238][1-5]|4[12]|6[1-8]|7[1-6]))\\d<2,7>",
    "3[2-9]\\d<7,8>|(?:31|43)\\d<8>",
    "80(?:0\\d<3>|3)\\d<3>",
    "(?:0878\\d<3>|89(?:2\\d|3[04]|4(?:[0-4]|[5-9]\\d\\d)|5[0-4]))\\d\\d|(?:1(?:44|6[346])|89(?:38|5[5-9]|9))\\d<6>",
    "84(?:[08]\\d<3>|[17])\\d<3>",
    "1(?:78\\d|99)\\d<6>",
    "55\\d<8>",
    "3[2-8]\\d<9,10>"]
  layouts := [
    ⟨"(\\d<2>)(\\d<4,6>)", "0[26]", "$1 $2", .asAtHome⟩,
    ⟨"(\\d<3>)(\\d<3,6>)", "0[13-57-9][0159]|8(?:03|4[17]|9[2-5])", "$1 $2", .asAtHome⟩,
    ⟨"(\\d<4>)(\\d<2,6>)", "0(?:[13-579][2-46-8]|8[236-8])", "$1 $2", .asAtHome⟩,
    ⟨"(\\d<4>)(\\d<4>)", "894", "$1 $2", .asAtHome⟩,
    ⟨"(\\d<2>)(\\d<3,4>)(\\d<4>)", "0[26]|5", "$1 $2 $3", .asAtHome⟩,
    ⟨"(\\d<3>)(\\d<3>)(\\d<3,4>)", "1(?:44|[679])|[378]|43", "$1 $2 $3", .asAtHome⟩,
    ⟨"(\\d<3>)(\\d<3,4>)(\\d<4>)", "0[13-57-9][0159]|14", "$1 $2 $3", .asAtHome⟩,
    ⟨"(\\d<2>)(\\d<4>)(\\d<5>)", "0[26]", "$1 $2 $3", .asAtHome⟩,
    ⟨"(\\d<4>)(\\d<3>)(\\d<4>)", "0", "$1 $2 $3", .asAtHome⟩,
    ⟨"(\\d<3>)(\\d<4>)(\\d<4,5>)", "3", "$1 $2 $3", .asAtHome⟩]

/-- The numbering plan of VA. -/
def planVA : Plan where
  region := "VA"
  code := 39
  internationalPrefix := "00"
  leadingDigits := "06698"
  general := "0\\d<5,10>|3[0-8]\\d<7,10>|55\\d<8>|8\\d<5>(?:\\d<2,4>)?|(?:1\\d|39)\\d<7,8>"
  lengths := [6, 7, 8, 9, 10, 11, 12]
  kinds := [
    "06698\\d<1,6>",
    "3[1-9]\\d<8>|3[2-9]\\d<7>"]

/-- The numbering plan of ES. -/
def planES : Plan where
  region := "ES"
  code := 34
  internationalPrefix := "00"
  general := "[5-9]\\d<8>"
  lengths := [9]
  kinds := [
    "96906(?:0[0-8]|1[1-9]|[2-9]\\d)\\d\\d|9(?:69(?:0[0-57-9]|[1-9]\\d)|73(?:[0-8]\\d|9[1-9]))\\d<4>|(?:8(?:[1356]\\d|[28][0-8]|[47][1-9])|9(?:[135]\\d|[268][0-8]|4[1-9]|7[124-9]))\\d<6>",
    "(?:590[16]00\\d|9(?:6906(?:09|10)|7390\\d\\d))\\d\\d|(?:6\\d|7[1-48])\\d<7>",
    "[89]00\\d<6>",
    "80[367]\\d<6>",
    "90[12]\\d<6>",
    "70\\d<7>",
    "51\\d<7>"]
  layouts := [
    ⟨"(\\d<4>)", "905", "$1", .hidden⟩,
    ⟨"(\\d<6>)", "[79]9", "$1", .hidden⟩,
    ⟨"(\\d<3>)(\\d<3>)(\\d<3>)", "[89]00", "$1 $2 $3", .asAtHome⟩,
    ⟨"(\\d<3>)(\\d<2>)(\\d<2>)(\\d<2>)", "[5-9]", "$1 $2 $3 $4", .asAtHome⟩]

/-- The numbering plan of PT. -/
def planPT : Plan where
  region := "PT"
  code := 351
  internationalPrefix := "00"
  general := "1693\\d<5>|(?:[26-9]\\d|30)\\d<7>"
  lengths := [9]
  kinds := [
    "2(?:[12]\\d|3[1-689]|4[1-59]|[57][1-9]|6[1-35689]|8[1-69]|9[1256])\\d<6>",
    "6(?:[06]92(?:30|9\\d)|[35]92(?:[049]\\d|3[034]))\\d<3>|(?:(?:16|6[0356])93|9(?:[1-36]\\d\\d|480))\\d<5>",
    "80[02]\\d<6>",
    "(?:6(?:0[178]|4[68])\\d|76(?:0[1-57]|1[2-47]|2[237]))\\d<5>",
    "80(?:8\\d|9[1579])\\d<5>",
    "884[0-4689]\\d<5>",
    "30\\d<7>",
    "70(?:38[01]|596|(?:7\\d|8[17])\\d)\\d<4>",
    "6(?:222\\d|8988)\\d<4>"]
  layouts := [
    ⟨"(\\d<2>)(\\d<3>)(\\d<4>)", "2[12]", "$1 $2 $3", .asAtHome⟩,
    ⟨"(\\d<3>)(\\d<3>)(\\d<3>)", "16|[236-9]", "$1 $2 $3", .asAtHome⟩]

/-- The plans of western Europe. -/
def westernEurope : List Plan :=
  [planGB, planGG, planIM, planJE, planIE, planFR, planBE, planLU, planNL, planDE, planCH, planAT,
   planIT, planVA, planES, planPT]

end Phone

end VCard
