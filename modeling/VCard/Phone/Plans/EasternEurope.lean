import VCard.Phone.Plan
/-! Numbering plans of eastern and south-eastern Europe. -/
namespace VCard

namespace Phone

/-- The numbering plan of PL. -/
def planPL : Plan where
  region := "PL"
  code := 48
  internationalPrefix := "00"
  general := "6\\d<5>(?:\\d<2>)?|8\\d<9>|[1-9]\\d<6>(?:\\d<2>)?"
  lengths := [6, 7, 9, 10]
  kinds := [
    "47\\d<7>|(?:1[2-8]|2[2-69]|3[2-4]|4[1-468]|5[24-689]|6[1-3578]|7[14-7]|8[1-79]|9[145])(?:[02-9]\\d<6>|1(?:[0-8]\\d<5>|9\\d<3>(?:\\d<2>)?))",
    "2131[89]\\d<4>|21(?:1[013-5]|2\\d)\\d<5>|(?:45|5[0137]|6[069]|7[2389]|88)\\d<7>",
    "64\\d<4,7>",
    "800\\d<6>",
    "70[01346-8]\\d<6>",
    "801\\d<6>",
    "39\\d<7>",
    "804\\d<6>"]
  layouts := [
    ⟨"(\\d<5>)", "19", "$1", .asAtHome⟩,
    ⟨"(\\d<3>)(\\d<2>)(\\d<3>)", "11|20|64", "$1 $2 $3", .asAtHome⟩,
    ⟨"(\\d<2>)(\\d<2>)(\\d<3>)", "(?:1[2-8]|2[2-69]|3[2-4]|4[1-468]|5[24-689]|6[1-3578]|7[14-7]|8[1-79]|9[145])19", "$1 $2 $3", .asAtHome⟩,
    ⟨"(\\d<3>)(\\d<2>)(\\d<2,3>)", "64", "$1 $2 $3", .asAtHome⟩,
    ⟨"(\\d<3>)(\\d<3>)(\\d<3>)", "21|39|45|5[0137]|6[0469]|7[02389]|8(?:0[14]|8)", "$1 $2 $3", .asAtHome⟩,
    ⟨"(\\d<2>)(\\d<3>)(\\d<2>)(\\d<2>)", "1[2-8]|[2-7]|8[1-79]|9[145]", "$1 $2 $3 $4", .asAtHome⟩,
    ⟨"(\\d<3>)(\\d<3>)(\\d<3,4>)", "8", "$1 $2 $3", .asAtHome⟩]

/-- The numbering plan of CZ. -/
def planCZ : Plan where
  region := "CZ"
  code := 420
  internationalPrefix := "00"
  general := "(?:[2-578]\\d|60)\\d<7>|9\\d<8,11>"
  lengths := [9, 10, 11, 12]
  kinds := [
    "(?:2\\d|3[1257-9]|4[16-9]|5[13-9])\\d<7>",
    "(?:60[1-8]\\d|7(?:0(?:[2-5]\\d|60)|19[01]|[2379]\\d\\d))\\d<5>",
    "800\\d<6>",
    "9(?:0[05689]|76)\\d<6>",
    "8[134]\\d<7>",
    "70[01]\\d<6>",
    "9[17]0\\d<6>",
    "9(?:5\\d|7[2-4])\\d<6>",
    "9(?:3\\d<9>|6\\d<7,10>)"]
  layouts := [
    ⟨"(\\d<3>)(\\d<3>)(\\d<3>)", "[2-8]|9[015-7]", "$1 $2 $3", .asAtHome⟩,
    ⟨"(\\d<2>)(\\d<3>)(\\d<3>)(\\d<2>)", "96", "$1 $2 $3 $4", .asAtHome⟩,
    ⟨"(\\d<3>)(\\d<3>)(\\d<3>)(\\d<3>)", "9", "$1 $2 $3 $4", .asAtHome⟩]

/-- The numbering plan of HU. -/
def planHU : Plan where
  region := "HU"
  code := 36
  internationalPrefix := "00"
  nationalPrefix := "06"
  general := "[235-7]\\d<8>|[1-9]\\d<7>"
  lengths := [8, 9]
  localLengths := [6, 7]
  kinds := [
    "(?:1\\d|[27][2-9]|3[2-7]|4[24-9]|5[2-79]|6[23689]|8[2-57-9]|9[2-69])\\d<6>",
    "(?:[257]0|3[01])\\d<7>",
    "(?:[48]0\\d|680[29])\\d<5>",
    "9[01]\\d<6>",
    "38\\d<7>",
    "21\\d<7>"]
  layouts := [
    ⟨"(\\d)(\\d<3>)(\\d<4>)", "1", "$1 $2 $3", .asAtHome⟩,
    ⟨"(\\d<2>)(\\d<3>)(\\d<3>)", "[27][2-9]|3[2-7]|4[24-9]|5[2-79]|6|8[2-57-9]|9[2-69]", "$1 $2 $3", .asAtHome⟩,
    ⟨"(\\d<2>)(\\d<3>)(\\d<3,4>)", "[2-9]", "$1 $2 $3", .asAtHome⟩]

/-- The numbering plan of RO. -/
def planRO : Plan where
  region := "RO"
  code := 40
  internationalPrefix := "00"
  nationalPrefix := "0"
  general := "(?:[236-8]\\d|90)\\d<7>|[23]\\d<5>"
  lengths := [6, 9]
  kinds := [
    "[23][13-6]\\d<7>|(?:2(?:19\\d|[3-6]\\d9)|31\\d\\d)\\d\\d",
    "7020\\d<5>|(?:62\\d|7(?:0[013-9]|1[0-3]|[2-7]\\d|8[03-8]|9[0-39]))\\d<6>",
    "800\\d<6>",
    "90[0136]\\d<6>",
    "801\\d<6>",
    "802\\d<6>",
    "37\\d<7>"]
  layouts := [
    ⟨"(\\d<3>)(\\d<3>)", "2[3-6]\\d9", "$1 $2", .asAtHome⟩,
    ⟨"(\\d<2>)(\\d<4>)", "219|31", "$1 $2", .asAtHome⟩,
    ⟨"(\\d<2>)(\\d<3>)(\\d<4>)", "[23]1", "$1 $2 $3", .asAtHome⟩,
    ⟨"(\\d<3>)(\\d<3>)(\\d<3>)", "[236-9]", "$1 $2 $3", .asAtHome⟩]
  extensionPrefix := " int "

/-- The numbering plan of GR. -/
def planGR : Plan where
  region := "GR"
  code := 30
  internationalPrefix := "00"
  general := "5005000\\d<3>|8\\d<9,11>|(?:[269]\\d|70)\\d<8>"
  lengths := [10, 11, 12]
  kinds := [
    "2(?:1\\d\\d|2(?:2[1-46-9]|[36][1-8]|4[1-7]|5[1-4]|7[1-5]|[89][1-9])|3(?:1\\d|2[1-57]|[35][1-3]|4[13]|7[1-7]|8[124-6]|9[1-79])|4(?:1\\d|2[1-8]|3[1-4]|4[13-5]|6[1-578]|9[1-5])|5(?:1\\d|[29][1-4]|3[1-5]|4[124]|5[1-6])|6(?:1\\d|[269][1-6]|3[1245]|4[1-7]|5[13-9]|7[14]|8[1-5])|7(?:1\\d|2[1-5]|3[1-6]|4[1-7]|5[1-57]|6[135]|9[125-7])|8(?:1\\d|2[1-5]|[34][1-4]|9[1-57]))\\d<6>",
    "68[57-9]\\d<7>|(?:69|94)\\d<8>",
    "800\\d<7,9>",
    "90[19]\\d<7>",
    "8(?:0[16]|12|[27]5|50)\\d<7>",
    "70\\d<8>",
    "5005000\\d<3>"]
  layouts := [
    ⟨"(\\d<2>)(\\d<4>)(\\d<4>)", "21|7", "$1 $2 $3", .asAtHome⟩,
    ⟨"(\\d<4>)(\\d<6>)", "2(?:2|3[2-57-9]|4[2-469]|5[2-59]|6[2-9]|7[2-69]|8[2-49])|5", "$1 $2", .asAtHome⟩,
    ⟨"(\\d<3>)(\\d<3>)(\\d<4>)", "[2689]", "$1 $2 $3", .asAtHome⟩,
    ⟨"(\\d<3>)(\\d<3,4>)(\\d<5>)", "8", "$1 $2 $3", .asAtHome⟩]

/-- The numbering plan of TR. -/
def planTR : Plan where
  region := "TR"
  code := 90
  internationalPrefix := "00"
  nationalPrefix := "0"
  general := "4\\d<6>|8\\d<11,12>|(?:[2-58]\\d\\d|900)\\d<7>"
  lengths := [7, 10, 12, 13]
  kinds := [
    "(?:2(?:[13][26]|[28][2468]|[45][268]|[67][246])|3(?:[13][28]|[24-6][2468]|[78][02468]|92)|4(?:[16][246]|[23578][2468]|4[26]))\\d<7>",
    "561(?:011|61\\d)\\d<4>|5(?:0[15-7]|1[06]|24|[34]\\d|5[1-59]|9[46])\\d<7>",
    "512\\d<7>",
    "8(?:00\\d<7>(?:\\d<2,3>)?|11\\d<7>)",
    "(?:8[89]8|900)\\d<7>",
    "592(?:21[12]|461)\\d<4>",
    "850\\d<7>",
    "444\\d<4>"]
  layouts := [
    ⟨"(\\d<3>)(\\d)(\\d<3>)", "444", "$1 $2 $3", .hidden⟩,
    ⟨"(\\d<3>)(\\d<3>)(\\d<2>)(\\d<2>)", "512|8[01589]|90", "$1 $2 $3 $4", .asAtHome⟩,
    ⟨"(\\d<3>)(\\d<3>)(\\d<2>)(\\d<2>)", "5(?:[0-59]|61[06]1)", "$1 $2 $3 $4", .asAtHome⟩,
    ⟨"(\\d<3>)(\\d<3>)(\\d<2>)(\\d<2>)", "[24][1-8]|3[1-9]", "$1 $2 $3 $4", .asAtHome⟩,
    ⟨"(\\d<3>)(\\d<3>)(\\d<6,7>)", "80", "$1 $2 $3", .asAtHome⟩]

/-- The numbering plan of RU. -/
def planRU : Plan where
  region := "RU"
  code := 7
  internationalPrefix := "810"
  nationalPrefix := "8"
  general := "8\\d<13>|[347-9]\\d<9>"
  lengths := [10, 14]
  localLengths := [7]
  kinds := [
    "336(?:[1-7]\\d|8[0-8]|9[0-26-9])\\d<5>|(?:3(?:0[12]|4[1-35-79]|5[1-3]|65|8[1-58]|9[0145])|4(?:01|1[1356]|2[13467]|7[1-5]|8[1-7]|9[1-689])|8(?:1[1-8]|2[01]|3[13-6]|4[0-8]|5[15-7]|6[0-35-79]|7[1-37-9]))\\d<7>",
    "9\\d<9>",
    "8(?:0[04]|108\\d<3>)\\d<7>",
    "80[39]\\d<7>",
    "808\\d<7>"]
  layouts := [
    ⟨"(\\d<3>)(\\d<2>)(\\d<2>)", "[0-79]", "$1-$2-$3", .hidden⟩,
    ⟨"(\\d<4>)(\\d<2>)(\\d<2>)(\\d<2>)", "7(?:1(?:[0-356]2|4[29]|7|8[27])|2(?:13[03-69]|62[013-9]))|72[1-57-9]2", "$1 $2 $3 $4", .asAtHome⟩,
    ⟨"(\\d<5>)(\\d)(\\d<2>)(\\d<2>)", "7(?:1(?:0(?:[356]|4[023])|[18]|2(?:3[013-9]|5)|3[45]|43[013-79]|5(?:3[1-8]|4[1-7]|5)|6(?:3[0-35-9]|[4-6]))|2(?:1(?:3[178]|[45])|[24-689]|3[35]|7[457]))|7(?:14|23)4[0-8]|71(?:33|45)[1-47]", "$1 $2 $3 $4", .asAtHome⟩,
    ⟨"(\\d<3>)(\\d<3>)(\\d<2>)(\\d<2>)", "[349]|8(?:[02-7]|1[1-8])", "$1 $2-$3-$4", .asAtHome⟩,
    ⟨"(\\d<3>)(\\d<3>)(\\d<2>)(\\d<2>)", "7", "$1 $2 $3 $4", .asAtHome⟩,
    ⟨"(\\d<3>)(\\d<4>)(\\d<4>)", "8", "$1 $2 $3", .asAtHome⟩]

/-- The numbering plan of KZ. -/
def planKZ : Plan where
  region := "KZ"
  code := 7
  internationalPrefix := "810"
  nationalPrefix := "8"
  leadingDigits := "33|7"
  general := "(?:33622|8\\d<8>)\\d<5>|[78]\\d<9>"
  lengths := [10, 14]
  localLengths := [5, 6]
  kinds := [
    "(?:33622|7(?:1(?:0(?:[23]\\d|4[0-3]|59|63)|1(?:[23]\\d|4[0-79]|59)|2(?:[23]\\d|59)|3(?:2\\d|3[0-79]|4[0-35-9]|59)|4(?:[24]\\d|3[013-9]|5[1-9]|97)|5(?:2\\d|3[1-9]|4[0-7]|59)|6(?:[2-4]\\d|5[19]|61)|72\\d|8(?:[27]\\d|3[1-46-9]|4[0-5]|59))|2(?:1(?:[23]\\d|4[46-9]|5[3469])|2(?:2\\d|3[0679]|46|5[12679])|3(?:[2-4]\\d|5[139])|4(?:2\\d|3[1-35-9]|59)|5(?:[23]\\d|4[0-8]|59|61)|6(?:2\\d|3[1-9]|4[0-4]|59)|7(?:[2379]\\d|40|5[279])|8(?:[23]\\d|4[0-3]|59)|9(?:2\\d|3[124578]|59))))\\d<5>",
    "7(?:0[0-25-8]|47|6[0-4]|7[15-8]|85)\\d<7>",
    "8(?:00|108\\d<3>)\\d<7>",
    "809\\d<7>",
    "808\\d<7>",
    "751\\d<7>"]

/-- The numbering plan of UA. -/
def planUA : Plan where
  region := "UA"
  code := 380
  internationalPrefix := "00"
  nationalPrefix := "0"
  general := "[89]\\d<9>|[3-9]\\d<8>"
  lengths := [9, 10]
  localLengths := [5, 6, 7]
  kinds := [
    "(?:3[1-8]|4[13-8]|5[1-7]|6[12459])\\d<7>",
    "790\\d<6>|(?:39|50|6[36-8]|7[1-357]|9[1-9])\\d<7>",
    "800[1-8]\\d<5,6>",
    "900[239]\\d<5,6>",
    "89[1-579]\\d<6>"]
  layouts := [
    ⟨"(\\d<3>)(\\d<3>)(\\d<3>)", "6[12][29]|(?:3[1-8]|4[136-8]|5[12457]|6[49])2|(?:56|65)[24]", "$1 $2 $3", .asAtHome⟩,
    ⟨"(\\d<4>)(\\d<5>)", "3[1-8]|4(?:[1367]|[45][6-9]|8[4-6])|5(?:[1-5]|6[0135689]|7[4-6])|6(?:[12][3-7]|[459])", "$1 $2", .asAtHome⟩,
    ⟨"(\\d<2>)(\\d<3>)(\\d<4>)", "[3-7]|89|9[1-9]", "$1 $2 $3", .asAtHome⟩,
    ⟨"(\\d<3>)(\\d<3>)(\\d<3,4>)", "[89]", "$1 $2 $3", .asAtHome⟩]

/-- The plans of eastern and south-eastern Europe. -/
def easternEurope : List Plan :=
  [planPL, planCZ, planHU, planRO, planGR, planTR, planRU, planKZ, planUA]

end Phone

end VCard
