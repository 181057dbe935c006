import VCard.Phone.Plan
/-! Numbering plans of Latin America. -/
namespace VCard

namespace Phone

/-- The numbering plan of MX. -/
def planMX : Plan where
  region := "MX"
  code := 52
  internationalPrefix := "0[09]"
  nationalPrefix := "0(?:[12]|4[45])|1"
  general := "[2-9]\\d<9>|1\\d<9,10>"
  lengths := [10, 11]
  localLengths := [7, 8]
  kinds := [
    "657[12]\\d<6>|(?:1(?:2(?:2[1-9]|3[1-35-8]|4[13-9]|7[1-689]|8[1-578]|9[467])|3(?:1[1-79]|[2458][1-9]|3\\d|7[1-8]|9[1-5])|4(?:1[1-57-9]|[24-7][1-9]|3[1-8]|8[1-35-9]|9[2-689])|5(?:[56]\\d|88|9[1-79])|6(?:1[2-68]|[2-4][1-9]|5[1-3689]|6[1-57-9]|7[1-7]|8[67]|9[4-8])|7(?:[1-467][1-9]|5[13-9]|8[1-69]|9[17])|8(?:1\\d|2[13-689]|3[1-6]|4[124-6]|6[1246-9]|7[0-378]|9[12479])|9(?:1[346-9]|2[1-4]|3[2-46-8]|5[1348]|[69][1-9]|7[12]|8[1-8]))|2(?:2\\d|3[1-35-8]|4[13-9]|7[1-689]|8[1-578]|9[467])|3(?:1[1-79]|[2458][1-9]|3\\d|7[1-8]|9[1-5])|4(?:1[1-57-9]|[24-7][1-9]|3[1-8]|8[1-35-9]|9[2-689])|5(?:[56]\\d|88|9[1-79])|6(?:1[2-68]|[2-4][1-9]|5[1-3689]|6[1-57-9]|7[1-7]|8[67]|9[4-8])|7(?:[1-467][1-9]|5[13-9]|8[1-69]|9[17])|8(?:1\\d|2[13-689]|3[1-6]|4[124-6]|6[1246-9]|7[0-378]|9[12479])|9(?:1[346-9]|2[1-4]|3[2-46-8]|5[1348]|[69][1-9]|7[12]|8[1-8]))\\d<7>",
    "8(?:00|88)\\d<7>",
    "900\\d<7>",
    "300\\d<7>",
    "500\\d<7>"]
  layouts := [
    ⟨"(\\d<5>)", "53", "$1", .hidden⟩,
    ⟨"(\\d<2>)(\\d<4>)(\\d<4>)", "33|5[56]|81", "$1 $2 $3", .asAtHome⟩,
    ⟨"(\\d<3>)(\\d<3>)(\\d<4>)", "[2-9]", "$1 $2 $3", .asAtHome⟩,
    ⟨"(\\d)(\\d<2>)(\\d<4>)(\\d<4>)", "1(?:33|5[56]|81)", "$2 $3 $4", .written "$1 $2 $3 $4"⟩,
    ⟨"(\\d)(\\d<3>)(\\d<3>)(\\d<4>)", "1", "$2 $3 $4", .written "$1 $2 $3 $4"⟩]

/-- The numbering plan of BR. -/
def planBR : Plan where
  region := "BR"
  code := 55
  internationalPrefix := "00(?:1[245]|2[1-35]|31|4[13]|[56]5|99)"
  nationalPrefix := "(?:0|90)(?:(1[245]|2[1-35]|31|4[13]|[56]5|99)(\\d<10,11>))?"
  transform := "$2"
  general := "(?:[1-46-9]\\d\\d|5(?:[0-46-9]\\d|5[0-46-9]))\\d<8>|[1-9]\\d<9>|[3589]\\d<8>|[34]\\d<7>"
  lengths := [8, 9, 10, 11]
  kinds := [
    "(?:[14689][1-9]|2[12478]|3[1-578]|5[13-5]|7[13-579])[2-5]\\d<7>",
    "(?:[14689][1-9]|2[12478]|3[1-578]|5[13-5]|7[13-579])(?:7|9\\d)\\d<7>",
    "800\\d<6,7>",
    "300\\d<6>|[59]00\\d<6,7>",
    "(?:30[03]\\d<3>|4(?:0(?:0\\d|20)|370))\\d<4>|300\\d<5>"]
  layouts := [
    ⟨"(\\d<4>)(\\d<4>)", "300|4(?:0[02]|37)", "$1-$2", .asAtHome⟩,
    ⟨"(\\d<3>)(\\d<2,3>)(\\d<4>)", "(?:[358]|90)0", "$1 $2 $3", .hidden⟩,
    ⟨"(\\d<4>)(\\d<4>)", "(?:[14689][1-9]|2[12478]|3[1-578]|5[13-5]|7[13-579])[2-57]", "$1-$2", .hidden⟩,
    ⟨"(\\d<5>)(\\d<4>)", "[16][1-9]|[2-57-9]", "$1-$2", .hidden⟩,
    ⟨"(\\d<2>)(\\d<4>)(\\d<4>)", "[1-9]", "$1 $2-$3", .asAtHome⟩,
    ⟨"(\\d<2>)(\\d<5>)(\\d<4>)", "[1-9]", "$1 $2-$3", .asAtHome⟩]

/-- The numbering plan of AR. -/
def planAR : Plan where
  region := "AR"
  code := 54
  internationalPrefix := "00"
  nationalPrefix := "0?(?:(11|2(?:2(?:02?|[13]|2[13-79]|4[1-6]|5[2457]|6[124-8]|7[1-4]|8[13-6]|9[1267])|3(?:02?|1[467]|2[03-6]|3[13-8]|[49][2-6]|5[2-8]|[67])|4(?:7[3-578]|9)|6(?:[0136]|2[24-6]|4[6-8]?|5[15-8])|80|9(?:0[1-3]|[19]|2\\d|3[1-6]|4[02568]?|5[2-4]|6[2-46]|72?|8[23]?))|3(?:3(?:2[79]|6|8[2578])|4(?:0[0-24-9]|[12]|3[5-8]?|4[24-7]|5[4-68]?|6[02-9]|7[126]|8[2379]?|9[1-36-8])|5(?:1|2[1245]|3[237]?|4[1-46-9]|6[2-4]|7[1-6]|8[2-5]?)|6[24]|7(?:[069]|1[1568]|2[15]|3[145]|4[13]|5[14-8]|7[2-57]|8[126])|8(?:[01]|2[15-7]|3[2578]?|4[13-6]|5[4-8]?|6[1-357-9]|7[36-8]?|8[5-8]?|9[124])))15)?"
  transform := "9$1"
  general := "(?:11|[89]\\d\\d)\\d<8>|[2368]\\d<9>"
  lengths := [10, 11]
  localLengths := [6, 7, 8]
  kinds := [
    "(?:(?:11[1-8]|670)\\d|2\\d<3>|3\\d<3>)\\d<6>",
    "675\\d<7>|9(?:11[1-8]\\d|2\\d<3>|3\\d<3>)\\d<6>",
    "800\\d<7,8>",
    "60[04579]\\d<7>",
    "810\\d<7>"]
  layouts := [
    ⟨"(\\d<3>)", "0|1(?:0[0-35-7]|1[02-5]|2[015]|3[47]|4[478])|911", "$1", .hidden⟩,
    ⟨"(\\d<2>)(\\d<4>)", "[1-9]", "$1-$2", .hidden⟩,
    ⟨"(\\d<3>)(\\d<4>)", "[2-9]", "$1-$2", .hidden⟩,
    ⟨"(\\d<4>)(\\d<4>)", "[1-8]", "$1-$2", .hidden⟩,
    ⟨"(\\d<4>)(\\d<2>)(\\d<4>)", "2(?:2[024-9]|3[0-59]|47|6[245]|9[02-8])|3(?:3[28]|4[03-9]|5[2-46-8]|7[1-578]|8[2-9])", "$1 $2-$3", .asAtHome⟩,
    ⟨"(\\d<2>)(\\d<4>)(\\d<4>)", "1", "$1 $2-$3", .asAtHome⟩,
    ⟨"(\\d<3>)(\\d<3>)(\\d<4>)", "[68]", "$1-$2-$3", .asAtHome⟩,
    ⟨"(\\d<3>)(\\d<3>)(\\d<4>)", "[23]", "$1 $2-$3", .asAtHome⟩,
    ⟨"(\\d)(\\d<4>)(\\d<2>)(\\d<4>)", "9(?:2[2-469]|3[3-578])", "$2 15-$3-$4", .written "$1 $2 $3-$4"⟩,
    ⟨"(\\d)(\\d<2>)(\\d<4>)(\\d<4>)", "91", "$2 15-$3-$4", .written "$1 $2 $3-$4"⟩,
    ⟨"(\\d<3>)(\\d<3>)(\\d<5>)", "8", "$1-$2-$3", .asAtHome⟩,
    ⟨"(\\d)(\\d<3>)(\\d<3>)(\\d<4>)", "9", "$2 15-$3-$4", .written "$1 $2 $3-$4"⟩]

/-- The numbering plan of CL. -/
def planCL : Plan where
  region := "CL"
  code := 56
  internationalPrefix := "(?:0|1(?:1[0-69]|2[02-5]|5[13-58]|69|7[0167]|8[018]))0"
  general := "12300\\d<6>|6\\d<9,10>|[2-9]\\d<8>"
  lengths := [9, 10, 11]
  kinds := [
    "(?:2\\d|3[2-5]|[47][1-35]|5[1-3578]|6[13-57]|8[1-9]|9\\d)\\d<7>",
    "(?:2\\d|3[2-5]|[47][1-35]|5[1-3578]|6[13-57]|8[1-9]|9\\d)\\d<7>",
    "(?:123|8)00\\d<6>",
    "44\\d<7>",
    "600\\d<7,8>"]
  layouts := [
    ⟨"(\\d<4>)", "1(?:[03-589]|21)|[29]0|78", "$1", .hidden⟩,
    ⟨"(\\d)(\\d<4>)(\\d<4>)", "2", "$1 $2 $3", .asAtHome⟩,
    ⟨"(\\d<2>)(\\d<3>)(\\d<4>)", "[3-5]|[6-8][1-9]", "$1 $2 $3", .asAtHome⟩,
    ⟨"(\\d)(\\d<4>)(\\d<4>)", "9", "$1 $2 $3", .asAtHome⟩,
    ⟨"(\\d<3>)(\\d<3>)(\\d<3,4>)", "60|8", "$1 $2 $3", .asAtHome⟩,
    ⟨"(\\d<4>)(\\d<3>)(\\d<4>)", "1", "$1 $2 $3", .asAtHome⟩,
    ⟨"(\\d<3>)(\\d<3>)(\\d<2>)(\\d<3>)", "60", "$1 $2 $3 $4", .asAtHome⟩]

/-- The numbering plan of CO. -/
def planCO : Plan where
  region := "CO"
  code := 57
  internationalPrefix := "00(?:4(?:[14]4|56)|[579])"
  nationalPrefix := "0([3579]|4(?:[14]4|56))?"
  general := "(?:46|60\\d\\d)\\d<6>|(?:1\\d|[39])\\d<9>"
  lengths := [8, 10, 11]
  localLengths := [4, 7]
  kinds := [
    "601055(?:[0-4]\\d|50)\\d\\d|6010(?:[0-4]\\d|5[0-4])\\d<4>|(?:46|60(?:[18][1-9]|[24-7][2-9]))\\d<6>",
    "333301[0-5]\\d<3>|3333(?:00|2[5-9]|[3-9]\\d)\\d<4>|(?:3(?:24[1-9]|3(?:00|3[0-24-9]))|9101)\\d<6>|3(?:0[0-5]|1\\d|2[0-3]|5[01]|70)\\d<7>",
    "1800\\d<7>",
    "(?:19(?:0[01]|4[78])|901)\\d<7>"]
  layouts := [
    ⟨"(\\d<4>)(\\d<4>)", "46", "$1 $2", .asAtHome⟩,
    ⟨"(\\d<3>)(\\d<7>)", "6|90", "$1 $2", .asAtHome⟩,
    ⟨"(\\d<3>)(\\d<7>)", "3[0-357]|9[14]", "$1 $2", .asAtHome⟩,
    ⟨"(\\d)(\\d<3>)(\\d<7>)", "1", "$1-$2-$3", .written "$1 $2 $3"⟩]

/-- The numbering plan of PE. -/
def planPE : Plan where
  region := "PE"
  code := 51
  internationalPrefix := "00|19(?:1[124]|77|90)00"
  nationalPrefix := "0"
  general := "(?:[14-8]|9\\d)\\d<7>"
  lengths := [8, 9]
  localLengths := [6, 7]
  kinds := [
    "(?:(?:(?:4[34]|5[14])[0-8]|687)\\d|7(?:173|(?:3[0-8]|55)\\d)|8(?:10[05689]|6(?:0[06-9]|1[6-9]|29)|7(?:0[0569]|[56]0)))\\d<4>|(?:1[0-8]|4[12]|5[236]|6[1-7]|7[246]|8[2-4])\\d<6>",
    "9\\d<8>",
    "800\\d<5>",
    "805\\d<5>",
    "801\\d<5>",
    "80[24]\\d<5>"]
  layouts := [
    ⟨"(\\d<3>)(\\d<5>)", "80", "$1 $2", .asAtHome⟩,
    ⟨"(\\d)(\\d<7>)", "1", "$1 $2", .asAtHome⟩,
    ⟨"(\\d<2>)(\\d<6>)", "[4-8]", "$1 $2", .asAtHome⟩,
    ⟨"(\\d<3>)(\\d<3>)(\\d<3>)", "9", "$1 $2 $3", .asAtHome⟩]
  extensionPrefix := " Anexo "

/-- The numbering plan of VE. -/
def planVE : Plan where
  region := "VE"
  code := 58
  internationalPrefix := "00"
  nationalPrefix := "0"
  general := "[68]00\\d<7>|(?:[24]\\d|[59]0)\\d<8>"
  lengths := [10]
  localLengths := [7]
  kinds := [
    "(?:2(?:12|3[457-9]|[467]\\d|[58][1-9]|9[1-6])|[4-6]00)\\d<7>",
    "4(?:1[24-8]|2[46])\\d<7>",
    "800\\d<7>",
    "90[01]\\d<7>",
    "501\\d<7>"]
  layouts := [
    ⟨"(\\d<3>)(\\d<7>)", "[24-689]", "$1-$2", .asAtHome⟩]

/-- The plans of Latin America. -/
def latinAmerica : List Plan :=
  [planMX, planBR, planAR, planCL, planCO, planPE, planVE]

end Phone

end VCard
