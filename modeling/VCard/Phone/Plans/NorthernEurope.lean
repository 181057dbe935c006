import VCard.Phone.Plan
/-! Numbering plans of northern Europe. -/
namespace VCard

namespace Phone

/-- The numbering plan of DK. -/
def planDK : Plan where
  region := "DK"
  code := 45
  internationalPrefix := "00"
  general := "[2-9]\\d<7>"
  lengths := [8]
  kinds := [
    "(?:[2-7]\\d|8[126-9]|9[1-46-9])\\d<6>",
    "80\\d<6>",
    "90\\d<6>"]
  layouts := [
    ⟨"(\\d<2>)(\\d<2>)(\\d<2>)(\\d<2>)", "[2-9]", "$1 $2 $3 $4", .asAtHome⟩]

/-- The numbering plan of NO. -/
def planNO : Plan where
  region := "NO"
  code := 47
  internationalPrefix := "00"
  general := "(?:0|[2-9]\\d<3>)\\d<4>"
  lengths := [5, 8]
  kinds := [
    "(?:2[1-4]|3[1-3578]|5[1-35-7]|6[1-4679]|7[0-8])\\d<6>",
    "(?:4[015-8]|9\\d)\\d<6>",
    "80[01]\\d<5>",
    "82[09]\\d<5>",
    "810(?:0[0-6]|[2-8]\\d)\\d<3>",
    "880\\d<5>",
    "85[0-5]\\d<5>",
    "(?:0[2-9]|81(?:0(?:0[7-9]|1\\d)|5\\d\\d))\\d<3>",
    "81[23]\\d<5>"]
  layouts := [
    ⟨"(\\d<3>)(\\d<2>)(\\d<3>)", "8", "$1 $2 $3", .asAtHome⟩,
    ⟨"(\\d<2>)(\\d<2>)(\\d<2>)(\\d<2>)", "[2-79]", "$1 $2 $3 $4", .asAtHome⟩]

/-- The numbering plan of SE. -/
def planSE : Plan where
  region := "SE"
  code := 46
  internationalPrefix := "00"
  nationalPrefix := "0"
  general := "(?:[26]\\d\\d|9)\\d<9>|[1-9]\\d<8>|[1-689]\\d<7>|[1-4689]\\d<6>|2\\d<5>"
  lengths := [6, 7, 8, 9, 10, 12]
  kinds := [
    "(?:(?:[12][136]|3[356]|4[0246]|6[03]|8\\d)\\d|90[1-9])\\d<4,6>|(?:1(?:2[0-35]|4[0-4]|5[0-25-9]|7[13-6]|[89]\\d)|2(?:2[0-7]|4[0136-8]|5[0138]|7[018]|8[01]|9[0-57])|3(?:0[0-4]|1\\d|2[0-25]|4[056]|7[0-2]|8[0-3]|9[023])|4(?:1[013-8]|3[0135]|5[14-79]|7[0-246-9]|8[0156]|9[0-689])|5(?:0[0-6]|[15][0-5]|2[0-68]|3[0-4]|4\\d|6[03-5]|7[013]|8[0-79]|9[01])|6(?:1[1-3]|2[0-4]|4[02-57]|5[0-37]|6[0-3]|7[0-2]|8[0247]|9[0-356])|9(?:1[0-68]|2\\d|3[02-5]|4[0-3]|5[0-4]|[68][01]|7[0135-8]))\\d<5,6>",
    "7[02369]\\d<7>",
    "74[02-9]\\d<6>",
    "20\\d<4,7>",
    "649\\d<6>|99[1-59]\\d<4>(?:\\d<3>)?|9(?:00|39|44)[1-8]\\d<3,6>",
    "77[0-7]\\d<6>",
    "75[1-8]\\d<6>",
    "10[1-8]\\d<6>",
    "(?:25[245]|67[3-68])\\d<9>"]
  layouts := [
    ⟨"(\\d<2>)(\\d<2,3>)(\\d<2>)", "20", "$1 $2 $3", .asAtHome⟩,
    ⟨"(\\d<3>)(\\d<4>)", "9(?:00|39|44|9)", "$1 $2", .asAtHome⟩,
    ⟨"(\\d<2>)(\\d<3>)(\\d<2>)", "[12][136]|3[356]|4[0246]|6[03]|90[1-9]", "$1 $2 $3", .asAtHome⟩,
    ⟨"(\\d<1>)(\\d<2,3>)(\\d<2>)(\\d<2>)", "8", "$1 $2 $3 $4", .asAtHome⟩,
    ⟨"(\\d<3>)(\\d<2,3>)(\\d<2>)", "1[2457]|2(?:[247-9]|5[0138])|3[0247-9]|4[1357-9]|5[0-35-9]|6(?:[125689]|4[02-57]|7[0-2])|9(?:[125-8]|3[02-5]|4[0-3])", "$1 $2 $3", .asAtHome⟩,
    ⟨"(\\d<3>)(\\d<2,3>)(\\d<3>)", "9(?:00|39|44)", "$1 $2 $3", .asAtHome⟩,
    ⟨"(\\d<2>)(\\d<2,3>)(\\d<2>)(\\d<2>)", "1[13689]|2[0136]|3[1356]|4[0246]|54|6[03]|90[1-9]", "$1 $2 $3 $4", .asAtHome⟩,
    ⟨"(\\d<2>)(\\d<3>)(\\d<2>)(\\d<2>)", "10|7", "$1 $2 $3 $4", .asAtHome⟩,
    ⟨"(\\d<1>)(\\d<3>)(\\d<3>)(\\d<2>)", "8", "$1 $2 $3 $4", .asAtHome⟩,
    ⟨"(\\d<3>)(\\d<2>)(\\d<2>)(\\d<2>)", "[13-5]|2(?:[247-9]|5[0138])|6(?:[124-689]|7[0-2])|9(?:[125-8]|3[02-5]|4[0-3])", "$1 $2 $3 $4", .asAtHome⟩,
    ⟨"(\\d<3>)(\\d<2>)(\\d<2>)(\\d<3>)", "9", "$1 $2 $3 $4", .asAtHome⟩,
    ⟨"(\\d<3>)(\\d<2>)(\\d<3>)(\\d<2>)(\\d<2>)", "[26]", "$1 $2 $3 $4 $5", .asAtHome⟩]

/-- The numbering plan of FI. -/
def planFI : Plan where
  region := "FI"
  code := 358
  internationalPrefix := "00|99(?:[01469]|5(?:[14]1|3[23]|5[59]|77|88|9[09]))"
  nationalPrefix := "0"
  general := "[1-35689]\\d<4>|7\\d<10,11>|(?:[124-7]\\d|3[0-46-9])\\d<8>|[1-9]\\d<5,8>"
  lengths := [5, 6, 7, 8, 9, 10, 11, 12]
  kinds := [
    "1[3-79][1-8]\\d<4,6>|[235689][1-8]\\d<5,7>",
    "4946\\d<2,6>|(?:4[0-8]|50)\\d<4,8>",
    "800\\d<4,6>",
    "[67]00\\d<5,6>",
    "20\\d<4,8>|60[12]\\d<5,6>|7(?:099\\d<4,5>|5[03-9]\\d<3,7>)|20[2-59]\\d\\d|(?:606|7(?:0[78]|1|3\\d))\\d<7>|(?:10|29|3[09]|70[1-5]\\d)\\d<4,8>"]
  layouts := [
    ⟨"(\\d<5>)", "75[12]", "$1", .hidden⟩,
    ⟨"(\\d)(\\d<4,9>)", "[2568][1-8]|3(?:0[1-9]|[1-9])|9", "$1 $2", .asAtHome⟩,
    ⟨"(\\d<6>)", "11", "$1", .hidden⟩,
    ⟨"(\\d<3>)(\\d<3,7>)", "[12]00|[368]|70[07-9]", "$1 $2", .asAtHome⟩,
    ⟨"(\\d<2>)(\\d<4,8>)", "[1245]|7[135]", "$1 $2", .asAtHome⟩,
    ⟨"(\\d<2>)(\\d<6,10>)", "7", "$1 $2", .asAtHome⟩]

/-- The plans of northern Europe. -/
def northernEurope : List Plan :=
  [planDK, planNO, planSE, planFI]

end Phone

end VCard
