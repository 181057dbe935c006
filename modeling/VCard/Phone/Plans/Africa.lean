import VCard.Phone.Plan
/-! Numbering plans of Africa. -/
namespace VCard

namespace Phone

/-- The numbering plan of ZA. -/
def planZA : Plan where
  region := "ZA"
  code := 27
  internationalPrefix := "00"
  nationalPrefix := "0"
  general := "[1-79]\\d<8>|8\\d<4,9>"
  lengths := [5, 6, 7, 8, 9, 10]
  kinds := [
    "(?:2(?:0330|4302)|52087)0\\d<3>|(?:1[0-8]|2[1-378]|3[1-69]|4\\d|5[1346-8])\\d<7>",
    "(?:1(?:3492[0-25]|4495[0235]|549(?:20|5[01]))|4[34]492[01])\\d<3>|8[1-4]\\d<3,7>|(?:2[27]|47|54)4950\\d<3>|(?:1(?:049[2-4]|9[12]\\d\\d)|(?:6\\d|7[0-46-9])\\d<3>|8(?:5\\d<3>|7(?:08[67]|158|28[5-9]|310)))\\d<4>|(?:1[6-8]|28|3[2-69]|4[025689]|5[36-8])4920\\d<3>|(?:12|[2-5]1)492\\d<4>",
    "80\\d<7>",
    "(?:86[2-9]|9[0-2]\\d)\\d<6>",
    "860\\d<6>",
    "87(?:08[0-589]|15[0-79]|28[0-4]|31[1-9])\\d<4>|87(?:[02][0-79]|1[0-46-9]|3[02-9]|[4-9]\\d)\\d<5>",
    "861\\d<6,7>"]
  layouts := [
    ⟨"(\\d<2>)(\\d<3,4>)", "8[1-4]", "$1 $2", .asAtHome⟩,
    ⟨"(\\d<2>)(\\d<3>)(\\d<2,3>)", "8[1-4]", "$1 $2 $3", .asAtHome⟩,
    ⟨"(\\d<3>)(\\d<3>)(\\d<3>)", "860", "$1 $2 $3", .asAtHome⟩,
    ⟨"(\\d<2>)(\\d<3>)(\\d<4>)", "[1-9]", "$1 $2 $3", .asAtHome⟩,
    ⟨"(\\d<3>)(\\d<4>)(\\d<3>)", "8", "$1 $2 $3", .asAtHome⟩]

/-- The numbering plan of NG. -/
def planNG : Plan where
  region := "NG"
  code := 234
  internationalPrefix := "009"
  nationalPrefix := "0"
  general := "38\\d<6>|[78]\\d<7,13>|(?:20|9\\d)\\d<8>"
  lengths := [8, 10, 11, 12, 13, 14]
  localLengths := [5, 6]
  kinds := [
    "20(?:[1259]\\d|3[013-9]|4[1-8]|6[024-689]|7[1-79]|8[2-9])\\d<6>",
    "(?:702[0-24-9]|819[01])\\d<6>|(?:7(?:0[13-9]|[12]\\d)|8(?:0[1-9]|1[0-8])|9(?:0[1-9]|1[1-6]))\\d<7>",
    "800\\d<7,11>",
    "700\\d<7,11>"]
  layouts := [
    ⟨"(\\d<3>)(\\d<2>)(\\d<3>)", "78", "$1 $2 $3", .asAtHome⟩,
    ⟨"(\\d)(\\d<3>)(\\d<3,4>)", "[12]|9(?:0[3-9]|[1-9])", "$1 $2 $3", .asAtHome⟩,
    ⟨"(\\d<2>)(\\d<3>)(\\d<2,3>)", "[3-6]|7(?:0[0-689]|[1-79])|8[2-9]", "$1 $2 $3", .asAtHome⟩,
    ⟨"(\\d<3>)(\\d<3>)(\\d<3,4>)", "[7-9]", "$1 $2 $3", .asAtHome⟩,
    ⟨"(\\d<3>)(\\d<4>)(\\d<4,5>)", "[78]", "$1 $2 $3", .asAtHome⟩,
    ⟨"(\\d<3>)(\\d<5>)(\\d<5,6>)", "[78]", "$1 $2 $3", .asAtHome⟩]

/-- The numbering plan of KE. -/
def planKE : Plan where
  region := "KE"
  code := 254
  internationalPrefix := "000"
  nationalPrefix := "0"
  general := "(?:[17]\\d\\d|900)\\d<6>|(?:2|80)0\\d<6,7>|[4-6]\\d<6,8>"
  lengths := [7, 8, 9, 10]
  kinds := [
    "(?:4[245]|5[1-79]|6[01457-9])\\d<5,7>|(?:4[136]|5[08]|62)\\d<7>|(?:[24]0|66)\\d<6,7>",
    "(?:1(?:0[0-8]|1[0-7]|2[014]|30)|7\\d\\d)\\d<6>",
    "800[02-8]\\d<5,6>",
    "900[02-9]\\d<5>"]
  layouts := [
    ⟨"(\\d<2>)(\\d<5,7>)", "[24-6]", "$1 $2", .asAtHome⟩,
    ⟨"(\\d<3>)(\\d<6>)", "[17]", "$1 $2", .asAtHome⟩,
    ⟨"(\\d<3>)(\\d<3>)(\\d<3,4>)", "[89]", "$1 $2 $3", .asAtHome⟩]

/-- The numbering plan of EG. -/
def planEG : Plan where
  region := "EG"
  code := 20
  internationalPrefix := "00"
  nationalPrefix := "0"
  general := "[189]\\d<8,9>|[24-6]\\d<8>|[135]\\d<7>"
  lengths := [8, 9, 10]
  localLengths := [6, 7]
  kinds := [
    "13[23]\\d<6>|(?:15|57)\\d<6,7>|(?:2\\d|3|4[05-8]|5[05]|6[24-689]|8[2468]|9[235-7])\\d<7>",
    "1[0-25]\\d<8>",
    "800\\d<7>",
    "900\\d<7>"]
  layouts := [
    ⟨"(\\d)(\\d<7,8>)", "[23]", "$1 $2", .asAtHome⟩,
    ⟨"(\\d<2>)(\\d<6,7>)", "1[35]|[4-6]|8[2468]|9[235-7]", "$1 $2", .asAtHome⟩,
    ⟨"(\\d<3>)(\\d<3>)(\\d<4>)", "[89]", "$1 $2 $3", .asAtHome⟩,
    ⟨"(\\d<2>)(\\d<8>)", "1", "$1 $2", .asAtHome⟩]

/-- The numbering plan of MA. -/
def planMA : Plan where
  region := "MA"
  code := 212
  internationalPrefix := "00"
  nationalPrefix := "0"
  general := "[5-8]\\d<8>"
  lengths := [9]
  kinds := [
    "5(?:2(?:[0-25-79]\\d|3[1-578]|4[02-46-8]|8[0235-7])|3(?:[0-47]\\d|5[02-9]|6[02-8]|8[014-9]|9[3-9])|(?:4[067]|5[03])\\d)\\d<5>",
    "(?:6(?:[0-79]\\d|8[0-247-9])|7(?:[0167]\\d|2[0-4]|5[01]|8[0-3]))\\d<6>",
    "80[0-7]\\d<6>",
    "89\\d<7>",
    "(?:592(?:4[0-2]|93)|80[89]\\d\\d)\\d<4>"]
  layouts := [
    ⟨"(\\d<3>)(\\d<2>)(\\d<2>)(\\d<2>)", "5[45]", "$1 $2 $3 $4", .asAtHome⟩,
    ⟨"(\\d<4>)(\\d<5>)", "5(?:2[2-46-9]|3[3-9]|9)|8(?:0[89]|92)", "$1-$2", .asAtHome⟩,
    ⟨"(\\d<2>)(\\d<7>)", "8", "$1-$2", .asAtHome⟩,
    ⟨"(\\d<3>)(\\d<6>)", "[5-7]", "$1-$2", .asAtHome⟩]

/-- The plans of Africa. -/
def africa : List Plan :=
  [planZA, planNG, planKE, planEG, planMA]

end Phone

end VCard
