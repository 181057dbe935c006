import VCard.Phone.Plan
/-! Numbering plans of North America and the Caribbean, which share calling code 1. -/
namespace VCard

namespace Phone

/-- The numbering plan of US. -/
def planUS : Plan where
  region := "US"
  code := 1
  internationalPrefix := "011"
  nationalPrefix := "1"
  general := "[2-9]\\d<9>|3\\d<6>"
  lengths := [10]
  localLengths := [7]
  kinds := [
    "3052(?:0[0-8]|[1-9]\\d)\\d<4>|(?:2742|305[3-9]|472[247-9]|505[2-57-9]|983[2-47-9])\\d<6>|(?:2(?:0[1-35-9]|1[02-9]|2[03-57-9]|3[1459]|4[08]|5[1-46]|6[0279]|7[0269]|8[13])|3(?:0[1-47-9]|1[02-9]|2[013-79]|3[0-24679]|4[167]|5[0-2]|6[01349]|8[056])|4(?:0[124-9]|1[02-579]|2[3-5]|3[0245]|4[023578]|58|6[349]|7[0589]|8[04])|5(?:0[1-47-9]|1[0235-8]|20|3[0149]|4[01]|5[179]|6[1-47]|7[0-5]|8[0256])|6(?:0[1-35-9]|1[024-9]|2[03689]|3[016]|4[0156]|5[01679]|6[0-279]|78|8[0-29])|7(?:0[1-46-8]|1[2-9]|2[04-8]|3[1247]|4[037]|5[47]|6[02359]|7[0-59]|8[156])|8(?:0[1-68]|1[02-8]|2[068]|3[0-2589]|4[03578]|5[046-9]|6[02-5]|7[028])|9(?:0[1346-9]|1[02-9]|2[0589]|3[0146-8]|4[01357-9]|5[12469]|7[0-389]|8[04-69]))[2-9]\\d<6>",
    "8(?:00|33|44|55|66|77|88)[2-9]\\d<6>",
    "900[2-9]\\d<6>",
    "52(?:3(?:[2-46-9][02-9]\\d|5(?:[02-46-9]\\d|5[0-46-9]))|4(?:[2-478][02-9]\\d|5(?:[034]\\d|2[024-9]|5[0-46-9])|6(?:0[1-9]|[2-9]\\d)|9(?:[05-9]\\d|2[0-5]|49)))\\d<4>|52[34][2-9]1[02-9]\\d<4>|5(?:00|2[125-9]|33|44|66|77|88)[2-9]\\d<6>"]
  layouts := [
    ⟨"(\\d<3>)(\\d<4>)", "310", "$1-$2", .hidden⟩,
    ⟨"(\\d<3>)(\\d<4>)", "[24-9]|3(?:[02-9]|1[1-9])", "$1-$2", .hidden⟩,
    ⟨"(\\d<3>)(\\d<3>)(\\d<4>)", "[2-9]", "($1) $2-$3", .written "$1-$2-$3"⟩]

/-- The numbering plan of CA. -/
def planCA : Plan where
  region := "CA"
  code := 1
  internationalPrefix := "011"
  nationalPrefix := "1"
  general := "(?:[2-8]\\d|90)\\d<8>|3\\d<6>"
  lengths := [10]
  localLengths := [7]
  kinds := [
    "(?:2(?:04|[23]6|[48]9|5[07]|63)|3(?:06|43|54|6[578]|82)|4(?:03|1[68]|[26]8|3[178]|50|74)|5(?:06|1[49]|48|79|8[147])|6(?:04|[18]3|39|47|72)|7(?:0[59]|42|53|78|8[02])|8(?:[06]7|19|25|7[39])|90[25])[2-9]\\d<6>",
    "8(?:00|33|44|55|66|77|88)[2-9]\\d<6>",
    "900[2-9]\\d<6>",
    "52(?:3(?:[2-46-9][02-9]\\d|5(?:[02-46-9]\\d|5[0-46-9]))|4(?:[2-478][02-9]\\d|5(?:[034]\\d|2[024-9]|5[0-46-9])|6(?:0[1-9]|[2-9]\\d)|9(?:[05-9]\\d|2[0-5]|49)))\\d<4>|52[34][2-9]1[02-9]\\d<4>|(?:5(?:00|2[125-9]|33|44|66|77|88)|622)[2-9]\\d<6>",
    "600[2-9]\\d<6>",
    "310\\d<4>"]

/-- The numbering plan of AG. -/
def planAG : Plan where
  region := "AG"
  code := 1
  internationalPrefix := "011"
  nationalPrefix := "([457]\\d<6>)$|1"
  transform := "268$1"
  leadingDigits := "268"
  general := "(?:268|[58]\\d\\d|900)\\d<7>"
  lengths := [10]
  localLengths := [7]
  kinds := [
    "268(?:4(?:6[0-38]|84)|56[0-2])\\d<4>",
    "268(?:464|7(?:1[3-9]|[28]\\d|3[0246]|64|7[0-689]))\\d<4>",
    "8(?:00|33|44|55|66|77|88)[2-9]\\d<6>",
    "900[2-9]\\d<6>",
    "52(?:3(?:[2-46-9][02-9]\\d|5(?:[02-46-9]\\d|5[0-46-9]))|4(?:[2-478][02-9]\\d|5(?:[034]\\d|2[024-9]|5[0-46-9])|6(?:0[1-9]|[2-9]\\d)|9(?:[05-9]\\d|2[0-5]|49)))\\d<4>|52[34][2-9]1[02-9]\\d<4>|5(?:00|2[125-9]|33|44|66|77|88)[2-9]\\d<6>",
    "26848[01]\\d<4>",
    "26840[69]\\d<4>"]

/-- The numbering plan of AI. -/
def planAI : Plan where
  region := "AI"
  code := 1
  internationalPrefix := "011"
  nationalPrefix := "([2457]\\d<6>)$|1"
  transform := "264$1"
  leadingDigits := "264"
  general := "(?:264|[58]\\d\\d|900)\\d<7>"
  lengths := [10]
  localLengths := [7]
  kinds := [
    "264(?:292|4(?:6[12]|9[78]))\\d<4>",
    "264(?:235|4(?:69|76)|5(?:3[6-9]|8[1-4])|7(?:29|72))\\d<4>",
    "8(?:00|33|44|55|66|77|88)[2-9]\\d<6>",
    "900[2-9]\\d<6>",
    "52(?:3(?:[2-46-9][02-9]\\d|5(?:[02-46-9]\\d|5[0-46-9]))|4(?:[2-478][02-9]\\d|5(?:[034]\\d|2[024-9]|5[0-46-9])|6(?:0[1-9]|[2-9]\\d)|9(?:[05-9]\\d|2[0-5]|49)))\\d<4>|52[34][2-9]1[02-9]\\d<4>|5(?:00|2[125-9]|33|44|66|77|88)[2-9]\\d<6>",
    "264724\\d<4>"]

/-- The numbering plan of AS. -/
def planAS : Plan where
  region := "AS"
  code := 1
  internationalPrefix := "011"
  nationalPrefix := "([267]\\d<6>)$|1"
  transform := "684$1"
  leadingDigits := "684"
  general := "(?:[58]\\d\\d|684|900)\\d<7>"
  lengths := [10]
  localLengths := [7]
  kinds := [
    "6846(?:22|33|44|55|77|88|9[19])\\d<4>",
    "684(?:2(?:48|5[2468]|7[26])|7(?:3[13]|70|82))\\d<4>",
    "8(?:00|33|44|55|66|77|88)[2-9]\\d<6>",
    "900[2-9]\\d<6>",
    "52(?:3(?:[2-46-9][02-9]\\d|5(?:[02-46-9]\\d|5[0-46-9]))|4(?:[2-478][02-9]\\d|5(?:[034]\\d|2[024-9]|5[0-46-9])|6(?:0[1-9]|[2-9]\\d)|9(?:[05-9]\\d|2[0-5]|49)))\\d<4>|52[34][2-9]1[02-9]\\d<4>|5(?:00|2[125-9]|33|44|66|77|88)[2-9]\\d<6>"]

/-- The numbering plan of BB. -/
def planBB : Plan where
  region := "BB"
  code := 1
  internationalPrefix := "011"
  nationalPrefix := "([2-9]\\d<6>)$|1"
  transform := "246$1"
  leadingDigits := "246"
  general := "(?:246|[58]\\d\\d|900)\\d<7>"
  lengths := [10]
  localLengths := [7]
  kinds := [
    "246521[0369]\\d<3>|246(?:2(?:2[78]|7[0-4])|4(?:1[024-6]|2\\d|3[2-9])|5(?:20|[34]\\d|54|7[1-3])|6(?:2\\d|38)|7[35]7|9(?:1[89]|63))\\d<4>",
    "246(?:(?:2(?:[3568]\\d|4[0-57-9])|3(?:5[2-9]|6[0-6])|4(?:46|5\\d)|69[5-7]|8(?:[2-5]\\d|83))\\d|52(?:1[147]|20))\\d<3>",
    "8(?:00|33|44|55|66|77|88)[2-9]\\d<6>",
    "(?:246976|900[2-9]\\d\\d)\\d<4>",
    "52(?:3(?:[2-46-9][02-9]\\d|5(?:[02-46-9]\\d|5[0-46-9]))|4(?:[2-478][02-9]\\d|5(?:[034]\\d|2[024-9]|5[0-46-9])|6(?:0[1-9]|[2-9]\\d)|9(?:[05-9]\\d|2[0-5]|49)))\\d<4>|52[34][2-9]1[02-9]\\d<4>|5(?:00|2[125-9]|33|44|66|77|88)[2-9]\\d<6>",
    "246(?:292|367|4(?:1[7-9]|3[01]|4[47-9]|67)|7(?:1[2-9]|2\\d|3[016]|53))\\d<4>",
    "246(?:31[1-6]|41[2-9])\\d<4>"]

/-- The numbering plan of BM. -/
def planBM : Plan where
  region := "BM"
  code := 1
  internationalPrefix := "011"
  nationalPrefix := "([2-9]\\d<6>)$|1"
  transform := "441$1"
  leadingDigits := "441"
  general := "(?:441|[58]\\d\\d|900)\\d<7>"
  lengths := [10]
  localLengths := [7]
  kinds := [
    "441(?:[46]\\d\\d|5(?:4\\d|60|89))\\d<4>",
    "441(?:[2378]\\d|5[0-39]|9[02])\\d<5>",
    "8(?:00|33|44|55|66|77|88)[2-9]\\d<6>",
    "900[2-9]\\d<6>",
    "52(?:3(?:[2-46-9][02-9]\\d|5(?:[02-46-9]\\d|5[0-46-9]))|4(?:[2-478][02-9]\\d|5(?:[034]\\d|2[024-9]|5[0-46-9])|6(?:0[1-9]|[2-9]\\d)|9(?:[05-9]\\d|2[0-5]|49)))\\d<4>|52[34][2-9]1[02-9]\\d<4>|5(?:00|2[125-9]|33|44|66|77|88)[2-9]\\d<6>"]

/-- The numbering plan of BS. -/
def planBS : Plan where
  region := "BS"
  code := 1
  internationalPrefix := "011"
  nationalPrefix := "([3-8]\\d<6>)$|1"
  transform := "242$1"
  leadingDigits := "242"
  general := "(?:242|[58]\\d\\d|900)\\d<7>"
  lengths := [10]
  localLengths := [7]
  kinds := [
    "242(?:3(?:02|[236][1-9]|4[0-24-9]|5[0-68]|7[347]|8[0-4]|9[2-467])|461|502|6(?:0[1-5]|12|2[013]|[45]0|7[67]|8[78]|9[89])|7(?:02|88))\\d<4>",
    "242(?:3(?:5[79]|7[56]|95)|4(?:[23][1-9]|4[1-35-9]|5[1-8]|6[2-8]|7\\d|81)|5(?:2[45]|3[35]|44|5[1-46-9]|65|77)|6[34]6|7(?:27|38)|8(?:0[1-9]|1[02-9]|2\\d|3[1-4]|[49]\\d))\\d<4>",
    "242300\\d<4>|8(?:00|33|44|55|66|77|88)[2-9]\\d<6>",
    "900[2-9]\\d<6>",
    "52(?:3(?:[2-46-9][02-9]\\d|5(?:[02-46-9]\\d|5[0-46-9]))|4(?:[2-478][02-9]\\d|5(?:[034]\\d|2[024-9]|5[0-46-9])|6(?:0[1-9]|[2-9]\\d)|9(?:[05-9]\\d|2[0-5]|49)))\\d<4>|52[34][2-9]1[02-9]\\d<4>|5(?:00|2[125-9]|33|44|66|77|88)[2-9]\\d<6>",
    "242225\\d<4>"]

/-- The numbering plan of DM. -/
def planDM : Plan where
  region := "DM"
  code := 1
  internationalPrefix := "011"
  nationalPrefix := "([2-7]\\d<6>)$|1"
  transform := "767$1"
  leadingDigits := "767"
  general := "(?:[58]\\d\\d|767|900)\\d<7>"
  lengths := [10]
  localLengths := [7]
  kinds := [
    "767(?:2(?:55|66)|4(?:2[01]|4[0-25-9])|50[0-4])\\d<4>",
    "767(?:2(?:[2-4689]5|7[5-7])|31[5-7]|61[1-8]|70[1-6])\\d<4>",
    "8(?:00|33|44|55|66|77|88)[2-9]\\d<6>",
    "900[2-9]\\d<6>",
    "52(?:3(?:[2-46-9][02-9]\\d|5(?:[02-46-9]\\d|5[0-46-9]))|4(?:[2-478][02-9]\\d|5(?:[034]\\d|2[024-9]|5[0-46-9])|6(?:0[1-9]|[2-9]\\d)|9(?:[05-9]\\d|2[0-5]|49)))\\d<4>|52[34][2-9]1[02-9]\\d<4>|5(?:00|2[125-9]|33|44|66|77|88)[2-9]\\d<6>"]

/-- The numbering plan of DO. -/
def planDO : Plan where
  region := "DO"
  code := 1
  internationalPrefix := "011"
  nationalPrefix := "1"
  leadingDigits := "8001|8[024]9"
  general := "(?:[58]\\d\\d|900)\\d<7>"
  lengths := [10]
  localLengths := [7]
  kinds := [
    "8(?:[04]9[2-9]\\d\\d|29(?:2(?:[0-59]\\d|6[04-9]|7[0-27]|8[0237-9])|3(?:[0-35-9]\\d|4[7-9])|[45]\\d\\d|6(?:[0-27-9]\\d|[3-5][1-9]|6[0135-8])|7(?:0[013-9]|[1-37]\\d|4[1-35689]|5[1-4689]|6[1-57-9]|8[1-79]|9[1-8])|8(?:0[146-9]|1[0-48]|[248]\\d|3[1-79]|5[01589]|6[013-68]|7[124-8]|9[0-8])|9(?:[0-24]\\d|3[02-46-9]|5[0-79]|60|7[0169]|8[57-9]|9[02-9])))\\d<4>",
    "8[024]9[2-9]\\d<6>",
    "8(?:00|33|44|55|66|77|88)[2-9]\\d<6>",
    "900[2-9]\\d<6>",
    "52(?:3(?:[2-46-9][02-9]\\d|5(?:[02-46-9]\\d|5[0-46-9]))|4(?:[2-478][02-9]\\d|5(?:[034]\\d|2[024-9]|5[0-46-9])|6(?:0[1-9]|[2-9]\\d)|9(?:[05-9]\\d|2[0-5]|49)))\\d<4>|52[34][2-9]1[02-9]\\d<4>|5(?:00|2[125-9]|33|44|66|77|88)[2-9]\\d<6>"]

/-- The numbering plan of GD. -/
def planGD : Plan where
  region := "GD"
  code := 1
  internationalPrefix := "011"
  nationalPrefix := "([2-9]\\d<6>)$|1"
  transform := "473$1"
  leadingDigits := "473"
  general := "(?:473|[58]\\d\\d|900)\\d<7>"
  lengths := [10]
  localLengths := [7]
  kinds := [
    "473(?:2(?:3[0-2]|69)|3(?:2[89]|86)|4(?:[06]8|3[5-9]|4[0-4]|5[579]|73|90)|63[68]|7(?:58|84)|800|938)\\d<4>",
    "473(?:4(?:0[2-79]|1[04-9]|2[0-5]|49|5[68])|5(?:2[01]|3[3-8])|901)\\d<4>",
    "8(?:00|33|44|55|66|77|88)[2-9]\\d<6>",
    "900[2-9]\\d<6>",
    "52(?:3(?:[2-46-9][02-9]\\d|5(?:[02-46-9]\\d|5[0-46-9]))|4(?:[2-478][02-9]\\d|5(?:[034]\\d|2[024-9]|5[0-46-9])|6(?:0[1-9]|[2-9]\\d)|9(?:[05-9]\\d|2[0-5]|49)))\\d<4>|52[34][2-9]1[02-9]\\d<4>|5(?:00|2[125-9]|33|44|66|77|88)[2-9]\\d<6>"]

/-- The numbering plan of GU. -/
def planGU : Plan where
  region := "GU"
  code := 1
  internationalPrefix := "011"
  nationalPrefix := "([3-9]\\d<6>)$|1"
  transform := "671$1"
  leadingDigits := "671"
  general := "(?:[58]\\d\\d|671|900)\\d<7>"
  lengths := [10]
  localLengths := [7]
  kinds := [
    "671(?:2\\d\\d|3(?:00|3[39]|4[349]|55|6[26])|4(?:00|56|7[1-9]|8[02-46-9])|5(?:55|6[2-5]|88)|6(?:3[2-578]|4[24-9]|5[34]|78|8[235-9])|7(?:[0479]7|2[0167]|3[45]|8[7-9])|8(?:[2-57-9]8|6[48])|9(?:2[29]|6[79]|7[1279]|8[7-9]|9[78]))\\d<4>",
    "671(?:2\\d\\d|3(?:00|3[39]|4[349]|55|6[26])|4(?:00|56|7[1-9]|8[02-46-9])|5(?:55|6[2-5]|88)|6(?:3[2-578]|4[24-9]|5[34]|78|8[235-9])|7(?:[0479]7|2[0167]|3[45]|8[7-9])|8(?:[2-57-9]8|6[48])|9(?:2[29]|6[79]|7[1279]|8[7-9]|9[78]))\\d<4>",
    "8(?:00|33|44|55|66|77|88)[2-9]\\d<6>",
    "900[2-9]\\d<6>",
    "52(?:3(?:[2-46-9][02-9]\\d|5(?:[02-46-9]\\d|5[0-46-9]))|4(?:[2-478][02-9]\\d|5(?:[034]\\d|2[024-9]|5[0-46-9])|6(?:0[1-9]|[2-9]\\d)|9(?:[05-9]\\d|2[0-5]|49)))\\d<4>|52[34][2-9]1[02-9]\\d<4>|5(?:00|2[125-9]|33|44|66|77|88)[2-9]\\d<6>"]

/-- The numbering plan of JM. -/
def planJM : Plan where
  region := "JM"
  code := 1
  internationalPrefix := "011"
  nationalPrefix := "([2-589]\\d<6>)$|1"
  transform := "876$1"
  leadingDigits := "658|876"
  general := "(?:[58]\\d\\d|658|900)\\d<7>"
  lengths := [10]
  localLengths := [7]
  kinds := [
    "8766060\\d<3>|(?:658(?:2(?:[0-8]\\d|9[0-46-9])|[3-9]\\d\\d)|876(?:52[35]|6(?:0[1-3579]|1[0235-9]|[23]\\d|40|5[06]|6[2-589]|7[0-25-9]|8[04]|9[4-9])|7(?:0[2-689]|[1-6]\\d|8[056]|9[45])|9(?:0[1-8]|1[02378]|[2-8]\\d|9[2-468])))\\d<4>",
    "(?:658(?:0[1-9]|1[0-46-9])\\d|876(?:(?:2[14-9]|[348]\\d)\\d|5(?:0[13-9]|17|[2-57-9]\\d|6[0-35-9])|7(?:0[07]|7\\d|8[1-47-9]|9[0-36-9])|9(?:[01]9|9[0579])))\\d<4>",
    "8(?:00|33|44|55|66|77|88)[2-9]\\d<6>",
    "900[2-9]\\d<6>",
    "52(?:3(?:[2-46-9][02-9]\\d|5(?:[02-46-9]\\d|5[0-46-9]))|4(?:[2-478][02-9]\\d|5(?:[034]\\d|2[024-9]|5[0-46-9])|6(?:0[1-9]|[2-9]\\d)|9(?:[05-9]\\d|2[0-5]|49)))\\d<4>|52[34][2-9]1[02-9]\\d<4>|5(?:00|2[125-9]|33|44|66|77|88)[2-9]\\d<6>"]

/-- The numbering plan of KN. -/
def planKN : Plan where
  region := "KN"
  code := 1
  internationalPrefix := "011"
  nationalPrefix := "([2-7]\\d<6>)$|1"
  transform := "869$1"
  leadingDigits := "869"
  general := "(?:[58]\\d\\d|900)\\d<7>"
  lengths := [10]
  localLengths := [7]
  kinds := [
    "869(?:2(?:29|36)|302|4(?:6[015-9]|70)|56[5-7])\\d<4>",
    "869(?:48[89]|55[6-8]|66\\d|76[02-7])\\d<4>",
    "8(?:00|33|44|55|66|77|88)[2-9]\\d<6>",
    "900[2-9]\\d<6>",
    "52(?:3(?:[2-46-9][02-9]\\d|5(?:[02-46-9]\\d|5[0-46-9]))|4(?:[2-478][02-9]\\d|5(?:[034]\\d|2[024-9]|5[0-46-9])|6(?:0[1-9]|[2-9]\\d)|9(?:[05-9]\\d|2[0-5]|49)))\\d<4>|52[34][2-9]1[02-9]\\d<4>|5(?:00|2[125-9]|33|44|66|77|88)[2-9]\\d<6>"]

/-- The numbering plan of KY. -/
def planKY : Plan where
  region := "KY"
  code := 1
  internationalPrefix := "011"
  nationalPrefix := "([2-9]\\d<6>)$|1"
  transform := "345$1"
  leadingDigits := "345"
  general := "(?:345|[58]\\d\\d|900)\\d<7>"
  lengths := [10]
  localLengths := [7]
  kinds := [
    "345(?:2(?:22|3[23]|44|66)|333|444|6(?:23|38|40)|7(?:30|4[35-79]|6[6-9]|77)|8(?:00|1[45]|4[89]|88)|9(?:14|4[035-9]))\\d<4>",
    "345(?:32[1-9]|42[0-4]|5(?:1[67]|2[5-79]|4[6-9]|50|76)|649|82[56]|9(?:1[679]|2[2-9]|3[06-9]|90))\\d<4>",
    "8(?:00|33|44|55|66|77|88)[2-9]\\d<6>",
    "(?:345976|900[2-9]\\d\\d)\\d<4>",
    "52(?:3(?:[2-46-9][02-9]\\d|5(?:[02-46-9]\\d|5[0-46-9]))|4(?:[2-478][02-9]\\d|5(?:[034]\\d|2[024-9]|5[0-46-9])|6(?:0[1-9]|[2-9]\\d)|9(?:[05-9]\\d|2[0-5]|49)))\\d<4>|52[34][2-9]1[02-9]\\d<4>|5(?:00|2[125-9]|33|44|66|77|88)[2-9]\\d<6>",
    "345849\\d<4>"]

/-- The numbering plan of LC. -/
def planLC : Plan where
  region := "LC"
  code := 1
  internationalPrefix := "011"
  nationalPrefix := "([2-8]\\d<6>)$|1"
  transform := "758$1"
  leadingDigits := "758"
  general := "(?:[58]\\d\\d|758|900)\\d<7>"
  lengths := [10]
  localLengths := [7]
  kinds := [
    "758(?:234|4(?:30|5\\d|6[2-9]|8[0-2])|57[0-2]|(?:63|75)8)\\d<4>",
    "758(?:28[4-7]|384|4(?:6[01]|8[4-9])|5(?:1[89]|20|84)|7(?:1[2-9]|2\\d|3[0-3])|812)\\d<4>",
    "8(?:00|33|44|55|66|77|88)[2-9]\\d<6>",
    "900[2-9]\\d<6>",
    "52(?:3(?:[2-46-9][02-9]\\d|5(?:[02-46-9]\\d|5[0-46-9]))|4(?:[2-478][02-9]\\d|5(?:[034]\\d|2[024-9]|5[0-46-9])|6(?:0[1-9]|[2-9]\\d)|9(?:[05-9]\\d|2[0-5]|49)))\\d<4>|52[34][2-9]1[02-9]\\d<4>|5(?:00|2[125-9]|33|44|66|77|88)[2-9]\\d<6>"]

/-- The numbering plan of MP. -/
def planMP : Plan where
  region := "MP"
  code := 1
  internationalPrefix := "011"
  nationalPrefix := "([2-9]\\d<6>)$|1"
  transform := "670$1"
  leadingDigits := "670"
  general := "[58]\\d<9>|(?:67|90)0\\d<7>"
  lengths := [10]
  localLengths := [7]
  kinds := [
    "670(?:2(?:3[3-7]|56|8[4-8])|32[1-38]|4(?:33|8[348])|5(?:32|55|88)|6(?:64|70|82)|78[3589]|8[3-9]8|989)\\d<4>",
    "670(?:2(?:3[3-7]|56|8[4-8])|32[1-38]|4(?:33|8[348])|5(?:32|55|88)|6(?:64|70|82)|78[3589]|8[3-9]8|989)\\d<4>",
    "8(?:00|33|44|55|66|77|88)[2-9]\\d<6>",
    "900[2-9]\\d<6>",
    "52(?:3(?:[2-46-9][02-9]\\d|5(?:[02-46-9]\\d|5[0-46-9]))|4(?:[2-478][02-9]\\d|5(?:[034]\\d|2[024-9]|5[0-46-9])|6(?:0[1-9]|[2-9]\\d)|9(?:[05-9]\\d|2[0-5]|49)))\\d<4>|52[34][2-9]1[02-9]\\d<4>|5(?:00|2[125-9]|33|44|66|77|88)[2-9]\\d<6>"]

/-- The numbering plan of MS. -/
def planMS : Plan where
  region := "MS"
  code := 1
  internationalPrefix := "011"
  nationalPrefix := "([34]\\d<6>)$|1"
  transform := "664$1"
  leadingDigits := "664"
  general := "(?:(?:[58]\\d\\d|900)\\d\\d|66449)\\d<5>"
  lengths := [10]
  localLengths := [7]
  kinds := [
    "6644(?:1[0-3]|91)\\d<4>",
    "664(?:3(?:49|9[1-6])|49[2-6])\\d<4>",
    "8(?:00|33|44|55|66|77|88)[2-9]\\d<6>",
    "900[2-9]\\d<6>",
    "52(?:3(?:[2-46-9][02-9]\\d|5(?:[02-46-9]\\d|5[0-46-9]))|4(?:[2-478][02-9]\\d|5(?:[034]\\d|2[024-9]|5[0-46-9])|6(?:0[1-9]|[2-9]\\d)|9(?:[05-9]\\d|2[0-5]|49)))\\d<4>|52[34][2-9]1[02-9]\\d<4>|5(?:00|2[125-9]|33|44|66|77|88)[2-9]\\d<6>"]

/-- The numbering plan of PR. -/
def planPR : Plan where
  region := "PR"
  code := 1
  internationalPrefix := "011"
  nationalPrefix := "1"
  leadingDigits := "787|939"
  general := "(?:[589]\\d\\d|787)\\d<7>"
  lengths := [10]
  localLengths := [7]
  kinds := [
    "(?:787|939)[2-9]\\d<6>",
    "(?:787|939)[2-9]\\d<6>",
    "8(?:00|33|44|55|66|77|88)[2-9]\\d<6>",
    "900[2-9]\\d<6>",
    "52(?:3(?:[2-46-9][02-9]\\d|5(?:[02-46-9]\\d|5[0-46-9]))|4(?:[2-478][02-9]\\d|5(?:[034]\\d|2[024-9]|5[0-46-9])|6(?:0[1-9]|[2-9]\\d)|9(?:[05-9]\\d|2[0-5]|49)))\\d<4>|52[34][2-9]1[02-9]\\d<4>|5(?:00|2[125-9]|33|44|66|77|88)[2-9]\\d<6>"]

/-- The numbering plan of SX. -/
def planSX : Plan where
  region := "SX"
  code := 1
  internationalPrefix := "011"
  nationalPrefix := "(5\\d<6>)$|1"
  transform := "721$1"
  leadingDigits := "721"
  general := "7215\\d<6>|(?:[58]\\d\\d|900)\\d<7>"
  lengths := [10]
  localLengths := [7]
  kinds := [
    "7215(?:4[2-8]|8[239]|9[056])\\d<4>",
    "7215(?:1[02]|2\\d|5[034679]|8[014-8])\\d<4>",
    "8(?:00|33|44|55|66|77|88)[2-9]\\d<6>",
    "900[2-9]\\d<6>",
    "52(?:3(?:[2-46-9][02-9]\\d|5(?:[02-46-9]\\d|5[0-46-9]))|4(?:[2-478][02-9]\\d|5(?:[034]\\d|2[024-9]|5[0-46-9])|6(?:0[1-9]|[2-9]\\d)|9(?:[05-9]\\d|2[0-5]|49)))\\d<4>|52[34][2-9]1[02-9]\\d<4>|5(?:00|2[125-9]|33|44|66|77|88)[2-9]\\d<6>"]

/-- The numbering plan of TC. -/
def planTC : Plan where
  region := "TC"
  code := 1
  internationalPrefix := "011"
  nationalPrefix := "([2-479]\\d<6>)$|1"
  transform := "649$1"
  leadingDigits := "649"
  general := "(?:[58]\\d\\d|649|900)\\d<7>"
  lengths := [10]
  localLengths := [7]
  kinds := [
    "649(?:266|712|9(?:4\\d|50))\\d<4>",
    "649(?:2(?:3[129]|4[1-79])|3\\d\\d|4[34][1-3])\\d<4>",
    "8(?:00|33|44|55|66|77|88)[2-9]\\d<6>",
    "900[2-9]\\d<6>",
    "52(?:3(?:[2-46-9][02-9]\\d|5(?:[02-46-9]\\d|5[0-46-9]))|4(?:[2-478][02-9]\\d|5(?:[034]\\d|2[024-9]|5[0-46-9])|6(?:0[1-9]|[2-9]\\d)|9(?:[05-9]\\d|2[0-5]|49)))\\d<4>|52[34][2-9]1[02-9]\\d<4>|5(?:00|2[125-9]|33|44|66|77|88)[2-9]\\d<6>",
    "64971[01]\\d<4>"]

/-- The numbering plan of TT. -/
def planTT : Plan where
  region := "TT"
  code := 1
  internationalPrefix := "011"
  nationalPrefix := "([2-46-8]\\d<6>)$|1"
  transform := "868$1"
  leadingDigits := "868"
  general := "(?:[58]\\d\\d|900)\\d<7>"
  lengths := [10]
  localLengths := [7]
  kinds := [
    "868(?:2(?:01|1[5-9]|[23]\\d|4[0-2])|6(?:0[7-9]|1[02-8]|2[1-9]|[3-69]\\d|7[0-79])|82[124])\\d<4>",
    "868(?:(?:2[5-9]|3\\d)\\d|4(?:3[0-6]|[6-9]\\d)|6(?:20|78|8\\d)|7(?:0[1-9]|1[02-9]|[2-9]\\d))\\d<4>",
    "8(?:00|33|44|55|66|77|88)[2-9]\\d<6>",
    "900[2-9]\\d<6>",
    "52(?:3(?:[2-46-9][02-9]\\d|5(?:[02-46-9]\\d|5[0-46-9]))|4(?:[2-478][02-9]\\d|5(?:[034]\\d|2[024-9]|5[0-46-9])|6(?:0[1-9]|[2-9]\\d)|9(?:[05-9]\\d|2[0-5]|49)))\\d<4>|52[34][2-9]1[02-9]\\d<4>|5(?:00|2[125-9]|33|44|66|77|88)[2-9]\\d<6>",
    "868619\\d<4>"]

/-- The numbering plan of VC. -/
def planVC : Plan where
  region := "VC"
  code := 1
  internationalPrefix := "011"
  nationalPrefix := "([2-7]\\d<6>)$|1"
  transform := "784$1"
  leadingDigits := "784"
  general := "(?:[58]\\d\\d|784|900)\\d<7>"
  lengths := [10]
  localLengths := [7]
  kinds := [
    "784(?:266|3(?:6[6-9]|7\\d|8[0-6])|4(?:38|5[0-36-8]|8[0-8])|5(?:55|7[0-2]|93)|638|784)\\d<4>",
    "784(?:4(?:3[0-5]|5[45]|89|9[0-8])|5(?:2[6-9]|3[0-4])|720)\\d<4>",
    "8(?:00|33|44|55|66|77|88)[2-9]\\d<6>",
    "900[2-9]\\d<6>",
    "52(?:3(?:[2-46-9][02-9]\\d|5(?:[02-46-9]\\d|5[0-46-9]))|4(?:[2-478][02-9]\\d|5(?:[034]\\d|2[024-9]|5[0-46-9])|6(?:0[1-9]|[2-9]\\d)|9(?:[05-9]\\d|2[0-5]|49)))\\d<4>|52[34][2-9]1[02-9]\\d<4>|5(?:00|2[125-9]|33|44|66|77|88)[2-9]\\d<6>"]

/-- The numbering plan of VG. -/
def planVG : Plan where
  region := "VG"
  code := 1
  internationalPrefix := "011"
  nationalPrefix := "([2-578]\\d<6>)$|1"
  transform := "284$1"
  leadingDigits := "284"
  general := "(?:284|[58]\\d\\d|900)\\d<7>"
  lengths := [10]
  localLengths := [7]
  kinds := [
    "284496[0-5]\\d<3>|284(?:229|4(?:22|9[45])|774|8(?:52|6[459]))\\d<4>",
    "284496[6-9]\\d<3>|284(?:245|3(?:0[0-3]|4[0-7]|68|9[34])|4(?:4[0-6]|68|9[69])|5(?:4[0-7]|68|9[69]))\\d<4>",
    "8(?:00|33|44|55|66|77|88)[2-9]\\d<6>",
    "900[2-9]\\d<6>",
    "52(?:3(?:[2-46-9][02-9]\\d|5(?:[02-46-9]\\d|5[0-46-9]))|4(?:[2-478][02-9]\\d|5(?:[034]\\d|2[024-9]|5[0-46-9])|6(?:0[1-9]|[2-9]\\d)|9(?:[05-9]\\d|2[0-5]|49)))\\d<4>|52[34][2-9]1[02-9]\\d<4>|5(?:00|2[125-9]|33|44|66|77|88)[2-9]\\d<6>"]

/-- The numbering plan of VI. -/
def planVI : Plan where
  region := "VI"
  code := 1
  internationalPrefix := "011"
  nationalPrefix := "([2-9]\\d<6>)$|1"
  transform := "340$1"
  leadingDigits := "340"
  general := "[58]\\d<9>|(?:34|90)0\\d<7>"
  lengths := [10]
  localLengths := [7]
  kinds := [
    "340(?:2(?:0\\d|10|2[06-8]|4[49]|77)|3(?:32|44)|4(?:2[23]|44|7[34]|89)|5(?:1[34]|55)|6(?:2[56]|4[23]|77|9[023])|7(?:1[2-57-9]|2[57]|7\\d)|884|998)\\d<4>",
    "340(?:2(?:0\\d|10|2[06-8]|4[49]|77)|3(?:32|44)|4(?:2[23]|44|7[34]|89)|5(?:1[34]|55)|6(?:2[56]|4[23]|77|9[023])|7(?:1[2-57-9]|2[57]|7\\d)|884|998)\\d<4>",
    "8(?:00|33|44|55|66|77|88)[2-9]\\d<6>",
    "900[2-9]\\d<6>",
    "52(?:3(?:[2-46-9][02-9]\\d|5(?:[02-46-9]\\d|5[0-46-9]))|4(?:[2-478][02-9]\\d|5(?:[034]\\d|2[024-9]|5[0-46-9])|6(?:0[1-9]|[2-9]\\d)|9(?:[05-9]\\d|2[0-5]|49)))\\d<4>|52[34][2-9]1[02-9]\\d<4>|5(?:00|2[125-9]|33|44|66|77|88)[2-9]\\d<6>"]

/-- The plans of North America and the Caribbean, which share calling code 1. -/
def northAmerica : List Plan :=
  [planUS, planCA, planAG, planAI, planAS, planBB, planBM, planBS, planDM, planDO, planGD, planGU,
   planJM, planKN, planKY, planLC, planMP, planMS, planPR, planSX, planTC, planTT, planVC, planVG,
   planVI]

end Phone

end VCard
