import VCard.Phone.Plan
/-! Numbering plans of Oceania. -/
namespace VCard

namespace Phone

/-- The numbering plan of AU. -/
def planAU : Plan where
  region := "AU"
  code := 61
  internationalPrefix := "001[14-689]|14(?:1[14]|34|4[17]|[56]6|7[47]|88)0011"
  nationalPrefix := "(183[12])|0"
  general := "1(?:[0-79]\\d<7>(?:\\d(?:\\d<2>)?)?|8[0-24-9]\\d<7>)|[2-478]\\d<8>|1\\d<4,7>"
  lengths := [5, 6, 7, 8, 9, 10, 12]
  localLengths := [8]
  kinds := [
    "(?:(?:2(?:[0-26-9]\\d|3[0-8]|4[02-9]|5[0135-9])|3(?:[0-3589]\\d|4[0-578]|6[1-9]|7[0-35-9])|7(?:[013-57-9]\\d|2[0-8]))\\d<3>|8(?:51(?:0(?:0[03-9]|[12479]\\d|3[2-9]|5[0-8]|6[1-9]|8[0-7])|1(?:[0235689]\\d|1[0-69]|4[0-589]|7[0-47-9])|2(?:0[0-79]|[18][13579]|2[14-9]|3[0-46-9]|[4-6]\\d|7[89]|9[0-4])|3\\d\\d)|(?:6[0-8]|[78]\\d)\\d<3>|9(?:[02-9]\\d<3>|1(?:(?:[0-58]\\d|6[0135-9])\\d|7(?:0[0-24-9]|[1-9]\\d)|9(?:[0-46-9]\\d|5[0-79])))))\\d<3>",
    "4(?:79[01]|83[0-389]|94[0-478])\\d<5>|4(?:[0-36]\\d|4[047-9]|5[0-25-9]|7[02-8]|8[0-24-9]|9[0-37-9])\\d<6>",
    "163\\d<2,6>",
    "180(?:0\\d<3>|2)\\d<3>",
    "190[0-26]\\d<6>",
    "500\\d<6>",
    "550\\d<6>|14(?:5(?:1[0458]|[23][458])|71\\d)\\d<4>",
    "13(?:00\\d<6>(?:\\d<2>)?|45[0-4]\\d<3>)|13\\d<4>"]
  layouts := [
    ⟨"(\\d<2>)(\\d<3,4>)", "16", "$1 $2", .asAtHome⟩,
    ⟨"(\\d<2>)(\\d<2>)(\\d<2>)", "13", "$1 $2 $3", .hidden⟩,
    ⟨"(\\d<3>)(\\d<3>)", "19", "$1 $2", .hidden⟩,
    ⟨"(\\d<3>)(\\d<4>)", "180", "$1 $2", .hidden⟩,
    ⟨"(\\d<4>)(\\d<3,4>)", "19", "$1 $2", .hidden⟩,
    ⟨"(\\d<2>)(\\d<3>)(\\d<2,4>)", "16", "$1 $2 $3", .asAtHome⟩,
    ⟨"(\\d<3>)(\\d<3>)(\\d<3>)", "14|4", "$1 $2 $3", .asAtHome⟩,
    ⟨"(\\d)(\\d<4>)(\\d<4>)", "[2378]", "$1 $2 $3", .asAtHome⟩,
    ⟨"(\\d<4>)(\\d<3>)(\\d<3>)", "1(?:30|[89])", "$1 $2 $3", .asAtHome⟩]

/-- The numbering plan of NZ. -/
def planNZ : Plan where
  region := "NZ"
  code := 64
  internationalPrefix := "0(?:0|161)"
  nationalPrefix := "0"
  general := "[1289]\\d<9>|50\\d<5>(?:\\d<2,3>)?|[27-9]\\d<7,8>|(?:[34]\\d|6[0-35-9])\\d<6>|8\\d<4,6>"
  lengths := [5, 6, 7, 8, 9, 10]
  kinds := [
    "24099\\d<3>|(?:3[2-79]|[49][2-9]|6[235-9]|7[2-57-9])\\d<6>",
    "2[0-27-9]\\d<7,8>|21\\d<6>",
    "[28]6\\d<6,7>",
    "508\\d<6,7>|80\\d<6,8>",
    "(?:1[13-57-9]\\d<5>|50(?:0[08]|30|66|77|88))\\d<3>|90\\d<6,8>",
    "70\\d<7>"]
  layouts := [
    ⟨"(\\d)(\\d<3>)(\\d<4>)", "240|[346]|7[2-57-9]|9[2-9]", "$1 $2 $3", .asAtHome⟩,
    ⟨"(\\d<2>)(\\d<3>)(\\d<3>)", "21", "$1 $2 $3", .asAtHome⟩,
    ⟨"(\\d<2>)(\\d<3>)(\\d<3,4>)", "2(?:1[1-9]|[69]|7[0-35-9])|70|86", "$1 $2 $3", .asAtHome⟩,
    ⟨"(\\d<2>)(\\d<3,4>)(\\d<4>)", "2[028]", "$1 $2 $3", .asAtHome⟩,
    ⟨"(\\d<3>)(\\d<3>)(\\d<3,4>)", "2(?:10|74)|[59]|80", "$1 $2 $3", .asAtHome⟩,
    ⟨"(\\d<3>)(\\d<2>)(\\d<3>)", "8", "$1 $2 $3", .asAtHome⟩,
    ⟨"(\\d<3>)(\\d<3>)(\\d<4>)", "[28]", "$1 $2 $3", .asAtHome⟩]

/-- The plans of Oceania. -/
def oceania : List Plan :=
  [planAU, planNZ]

end Phone

end VCard
