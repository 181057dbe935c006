import VCard.Charset.Fault
/-! Character sets of at most 256 characters, one byte each.

Each set is given by a table of 256 characters, the character of each byte in
order, with U+FFFE where a byte has no character (U+FFFE is no character of any
set). Decoding looks a byte up; a byte without a character does not decode.
Encoding looks for the character among the table; where several bytes have the
same character, the last of them is written (`byteOf?`). The failures name the
codec `charmap`, and a character a set lacks "maps to <undefined>". -/
namespace VCard.Charset

/-- The first half of most tables: the ASCII characters, each at its own byte. -/
def asciiHalf : String :=
  codeRun 0x0 128

/-- The tables of the single-byte sets, by codec name. -/
def singleByteTables : List (String × String) :=
  [("cp037",
    ("\x00\x01\x02\x03\x9c\x09\x86\x7f\x97\x8d\x8e" ++ codeRun 0xB 9 ++ "\x9d\x85\x08\x87\x18\x19\x92\x8f\x1c\x1d\x1e\x1f\x80\x81\x82\x83\x84\x0a\x17\x1b\x88\x89\x8a\x8b\x8c\x05\x06\x07\x90\x91\x16\x93\x94\x95\x96\x04\x98\x99\x9a\x9b\x14\x15\x9e\x1a \xa0âäàáãåçñ¢.<(+|&éêëèíîïìß!$*);¬-/ÂÄÀÁÃÅÇÑ¦,%_>?øÉÊËÈÍÎÏÌ\x60:#@\x27=\x22Øabcdefghi«»ðýþ±°jklmnopqrªºæ¸Æ¤µ~stuvwxyz¡¿ÐÝÞ®^£¥·©§¶¼½¾[]¯¨´×\x7bABCDEFGHI\xadôöòóõ\x7dJKLMNOPQR¹ûüùúÿ\x5c÷STUVWXYZ²ÔÖÒÓÕ0123456789³ÛÜÙÚ\x9f")),
   ("cp1006",
    asciiHalf ++ (codeRun 0x80 33 ++ "۰۱۲۳۴۵۶۷۸۹،؛\xad؟ﺁﺍﺎﺎﺏﺑﭖﭘﺓﺕﺗﭦﭨﺙﺛﺝﺟﭺﭼﺡﺣﺥﺧﺩﮄﺫﺭﮌﺯﮊﺱﺳﺵﺷﺹﺻﺽﺿﻁﻅ" ++ codeRun 0xFEC9 9 ++ "ﻓﻕﻗﻙﻛﮒﮔﻝﻟﻠﻡﻣﮞﻥﻧﺅﻭﮦﮨﮩﮪﺀﺉﺊﺋﻱﻲﻳﮰﮮﹼﹽ")),
   ("cp1026",
    ("\x00\x01\x02\x03\x9c\x09\x86\x7f\x97\x8d\x8e" ++ codeRun 0xB 9 ++ "\x9d\x85\x08\x87\x18\x19\x92\x8f\x1c\x1d\x1e\x1f\x80\x81\x82\x83\x84\x0a\x17\x1b\x88\x89\x8a\x8b\x8c\x05\x06\x07\x90\x91\x16\x93\x94\x95\x96\x04\x98\x99\x9a\x9b\x14\x15\x9e\x1a \xa0âäàáãå\x7bñÇ.<(+!&éêëèíîïìßĞİ*);^-/ÂÄÀÁÃÅ[Ñş,%_>?øÉÊËÈÍÎÏÌı:ÖŞ\x27=ÜØabcdefghi«»\x7d\x60¦±°jklmnopqrªºæ¸Æ¤µöstuvwxyz¡¿]$@®¢£¥·©§¶¼½¾¬|¯¨´×çABCDEFGHI\xadô~òóõğJKLMNOPQR¹û\x5cùúÿü÷STUVWXYZ²Ô#ÒÓÕ0123456789³Û\x22ÙÚ\x9f")),
   ("cp1125",
    asciiHalf ++ (codeRun 0x410 48 ++ "░▒▓│┤╡╢╖╕╣║╗╝╜╛┐└┴┬├─┼╞╟╚╔╩╦╠═╬╧╨╤╥╙╘╒╓╫╪┘┌█▄▌▐▀" ++ codeRun 0x440 16 ++ "ЁёҐґЄєІіЇї·√№¤■\xa0")),
   ("cp1140",
    ("\x00\x01\x02\x03\x9c\x09\x86\x7f\x97\x8d\x8e" ++ codeRun 0xB 9 ++ "\x9d\x85\x08\x87\x18\x19\x92\x8f\x1c\x1d\x1e\x1f\x80\x81\x82\x83\x84\x0a\x17\x1b\x88\x89\x8a\x8b\x8c\x05\x06\x07\x90\x91\x16\x93\x94\x95\x96\x04\x98\x99\x9a\x9b\x14\x15\x9e\x1a \xa0âäàáãåçñ¢.<(+|&éêëèíîïìß!$*);¬-/ÂÄÀÁÃÅÇÑ¦,%_>?øÉÊËÈÍÎÏÌ\x60:#@\x27=\x22Øabcdefghi«»ðýþ±°jklmnopqrªºæ¸Æ€µ~stuvwxyz¡¿ÐÝÞ®^£¥·©§¶¼½¾[]¯¨´×\x7bABCDEFGHI\xadôöòóõ\x7dJKLMNOPQR¹ûüùúÿ\x5c÷STUVWXYZ²ÔÖÒÓÕ0123456789³ÛÜÙÚ\x9f")),
   ("cp1250",
    asciiHalf ++ "€\ufffe\u201a\ufffe\u201e\u2026\u2020\u2021\ufffe\u2030Š\u2039ŚŤŽŹ\ufffe\u2018\u2019\u201c\u201d\u2022\u2013\u2014\ufffe™š\u203aśťžź\xa0ˇ˘Ł¤Ą¦§¨©Ş«¬\xad®Ż°±˛ł´µ¶·¸ąş»Ľ˝ľżŔÁÂĂÄĹĆÇČÉĘËĚÍÎĎĐŃŇÓÔŐÖ×ŘŮÚŰÜÝŢßŕáâăäĺćçčéęëěíîďđńňóôőö÷řůúűüýţ˙"),
   ("cp1251",
    asciiHalf ++ ("ЂЃ\u201aѓ\u201e\u2026\u2020\u2021€\u2030Љ\u2039ЊЌЋЏђ\u2018\u2019\u201c\u201d\u2022\u2013\u2014\ufffe™љ\u203aњќћџ\xa0ЎўЈ¤Ґ¦§Ё©Є«¬\xad®Ї°±Ііґµ¶·ё№є»јЅѕї" ++ codeRun 0x410 64)),
   ("cp1252",
    asciiHalf ++ ("€\ufffe\u201aƒ\u201e\u2026\u2020\u2021ˆ\u2030Š\u2039Œ\ufffeŽ\ufffe\ufffe\u2018\u2019\u201c\u201d\u2022\u2013\u2014˜™š\u203aœ\ufffežŸ" ++ codeRun 0xA0 96)),
   ("cp1253",
    asciiHalf ++ ("€\ufffe\u201aƒ\u201e\u2026\u2020\u2021\ufffe\u2030\ufffe\u2039\ufffe\ufffe\ufffe\ufffe\ufffe\u2018\u2019\u201c\u201d\u2022\u2013\u2014\ufffe™\ufffe\u203a\ufffe\ufffe\ufffe\ufffe\xa0΅Ά£¤¥¦§¨©\ufffe«¬\xad®\u2015°±²³΄µ¶·ΈΉΊ»Ό½" ++ codeRun 0x38E 20 ++ "\ufffe" ++ codeRun 0x3A3 44 ++ "\ufffe")),
   ("cp1254",
    asciiHalf ++ ("€\ufffe\u201aƒ\u201e\u2026\u2020\u2021ˆ\u2030Š\u2039Œ\ufffe\ufffe\ufffe\ufffe\u2018\u2019\u201c\u201d\u2022\u2013\u2014˜™š\u203aœ\ufffe\ufffeŸ" ++ codeRun 0xA0 48 ++ "ĞÑÒÓÔÕÖ×ØÙÚÛÜİŞ" ++ codeRun 0xDF 17 ++ "ğñòóôõö÷øùúûüışÿ")),
   ("cp1255",
    asciiHalf ++ ("€\ufffe\u201aƒ\u201e\u2026\u2020\u2021ˆ\u2030\ufffe\u2039\ufffe\ufffe\ufffe\ufffe\ufffe\u2018\u2019\u201c\u201d\u2022\u2013\u2014˜™\ufffe\u203a\ufffe\ufffe\ufffe\ufffe\xa0¡¢£₪¥¦§¨©×" ++ codeRun 0xAB 15 ++ "÷»¼½¾¿ְֱֲֳִֵֶַָֹ\ufffeֻּֽ־ֿ׀ׁׂ׃װױײ׳״" ++ codeFill 0xFFFE 7 ++ codeRun 0x5D0 27 ++ "\ufffe\ufffe\u200e\u200f\ufffe")),
   ("cp1256",
    asciiHalf ++ "€پ\u201aƒ\u201e\u2026\u2020\u2021ˆ\u2030ٹ\u2039Œچژڈگ\u2018\u2019\u201c\u201d\u2022\u2013\u2014ک™ڑ\u203aœ\u200c\u200dں\xa0،¢£¤¥¦§¨©ھ«¬\xad®¯°±²³´µ¶·¸¹؛»¼½¾؟ہءآأؤإئابةتثجحخدذرزسشصض×طظعغـفقكàلâمنهوçèéêëىيîïًٌٍَôُِ÷ّùْûü\u200e\u200fے"),
   ("cp1257",
    asciiHalf ++ "€\ufffe\u201a\ufffe\u201e\u2026\u2020\u2021\ufffe\u2030\ufffe\u2039\ufffe¨ˇ¸\ufffe\u2018\u2019\u201c\u201d\u2022\u2013\u2014\ufffe™\ufffe\u203a\ufffe¯˛\ufffe\xa0\ufffe¢£¤\ufffe¦§Ø©Ŗ«¬\xad®Æ°±²³´µ¶·ø¹ŗ»¼½¾æĄĮĀĆÄÅĘĒČÉŹĖĢĶĪĻŠŃŅÓŌÕÖ×ŲŁŚŪÜŻŽßąįāćäåęēčéźėģķīļšńņóōõö÷ųłśūüżž˙"),
   ("cp1258",
    asciiHalf ++ ("€\ufffe\u201aƒ\u201e\u2026\u2020\u2021ˆ\u2030\ufffe\u2039Œ\ufffe\ufffe\ufffe\ufffe\u2018\u2019\u201c\u201d\u2022\u2013\u2014˜™\ufffe\u203aœ\ufffe\ufffeŸ" ++ codeRun 0xA0 35 ++ "ĂÄÅÆÇÈÉÊË\u0300ÍÎÏĐÑ\u0309ÓÔƠÖ×ØÙÚÛÜƯ\u0303ßàáâăäåæçèéêë\u0301íîïđñ\u0323óôơö÷øùúûüư₫ÿ")),
   ("cp273",
    ("\x00\x01\x02\x03\x9c\x09\x86\x7f\x97\x8d\x8e" ++ codeRun 0xB 9 ++ "\x9d\x85\x08\x87\x18\x19\x92\x8f\x1c\x1d\x1e\x1f\x80\x81\x82\x83\x84\x0a\x17\x1b\x88\x89\x8a\x8b\x8c\x05\x06\x07\x90\x91\x16\x93\x94\x95\x96\x04\x98\x99\x9a\x9b\x14\x15\x9e\x1a \xa0â\x7bàáãåçñÄ.<(+!&éêëèíîïì~Ü$*);^-/Â[ÀÁÃÅÇÑö,%_>?øÉÊËÈÍÎÏÌ\x60:#§\x27=\x22Øabcdefghi«»ðýþ±°jklmnopqrªºæ¸Æ¤µßstuvwxyz¡¿ÐÝÞ®¢£¥·©@¶¼½¾¬|\u203e¨´×äABCDEFGHI\xadô¦òóõüJKLMNOPQR¹û\x7dùúÿÖ÷STUVWXYZ²Ô\x5cÒÓÕ0123456789³Û]ÙÚ\x9f")),
   ("cp424",
    ("\x00\x01\x02\x03\x9c\x09\x86\x7f\x97\x8d\x8e" ++ codeRun 0xB 9 ++ "\x9d\x85\x08\x87\x18\x19\x92\x8f\x1c\x1d\x1e\x1f\x80\x81\x82\x83\x84\x0a\x17\x1b\x88\x89\x8a\x8b\x8c\x05\x06\x07\x90\x91\x16\x93\x94\x95\x96\x04\x98\x99\x9a\x9b\x14\x15\x9e\x1a אבגדהוזחט¢.<(+|&יךכלםמןנס!$*);¬-/עףפץצקרש¦,%_>?\ufffeת\ufffe\ufffe\xa0\ufffe\ufffe\ufffe\u2017\x60:#@\x27=\x22\ufffeabcdefghi«»\ufffe\ufffe\ufffe±°jklmnopqr\ufffe\ufffe\ufffe¸\ufffe¤µ~stuvwxyz\ufffe\ufffe\ufffe\ufffe\ufffe®^£¥·©§¶¼½¾[]¯¨´×\x7bABCDEFGHI\xad\ufffe\ufffe\ufffe\ufffe\ufffe\x7dJKLMNOPQR¹\ufffe\ufffe\ufffe\ufffe\ufffe\x5c÷STUVWXYZ²\ufffe\ufffe\ufffe\ufffe\ufffe0123456789³\ufffe\ufffe\ufffe\ufffe\x9f")),
   ("cp437",
    asciiHalf ++ "ÇüéâäàåçêëèïîìÄÅÉæÆôöòûùÿÖÜ¢£¥₧ƒáíóúñÑªº¿⌐¬½¼¡«»░▒▓│┤╡╢╖╕╣║╗╝╜╛┐└┴┬├─┼╞╟╚╔╩╦╠═╬╧╨╤╥╙╘╒╓╫╪┘┌█▄▌▐▀αßΓπΣσµτΦΘΩδ∞φε∩≡±≥≤⌠⌡÷≈°∙·√ⁿ²■\xa0"),
   ("cp500",
    ("\x00\x01\x02\x03\x9c\x09\x86\x7f\x97\x8d\x8e" ++ codeRun 0xB 9 ++ "\x9d\x85\x08\x87\x18\x19\x92\x8f\x1c\x1d\x1e\x1f\x80\x81\x82\x83\x84\x0a\x17\x1b\x88\x89\x8a\x8b\x8c\x05\x06\x07\x90\x91\x16\x93\x94\x95\x96\x04\x98\x99\x9a\x9b\x14\x15\x9e\x1a \xa0âäàáãåçñ[.<(+!&éêëèíîïìß]$*);^-/ÂÄÀÁÃÅÇÑ¦,%_>?øÉÊËÈÍÎÏÌ\x60:#@\x27=\x22Øabcdefghi«»ðýþ±°jklmnopqrªºæ¸Æ¤µ~stuvwxyz¡¿ÐÝÞ®¢£¥·©§¶¼½¾¬|¯¨´×\x7bABCDEFGHI\xadôöòóõ\x7dJKLMNOPQR¹ûüùúÿ\x5c÷STUVWXYZ²ÔÖÒÓÕ0123456789³ÛÜÙÚ\x9f")),
   ("cp720",
    asciiHalf ++ "\x80\x81éâ\x84à\x86çêëèïî\x8d\x8e\x8f\x90ّْô¤ـûùءآأؤ£إئابةتثجحخدذرزسشص«»░▒▓│┤╡╢╖╕╣║╗╝╜╛┐└┴┬├─┼╞╟╚╔╩╦╠═╬╧╨╤╥╙╘╒╓╫╪┘┌█▄▌▐▀ضطظعغفµقكلمنهوىي≡ًٌٍَُِ≈°∙·√ⁿ²■\xa0"),
   ("cp737",
    asciiHalf ++ "ΑΒΓΔΕΖΗΘΙΚΛΜΝΞΟΠΡΣΤΥΦΧΨΩαβγδεζηθικλμνξοπρσςτυφχψ░▒▓│┤╡╢╖╕╣║╗╝╜╛┐└┴┬├─┼╞╟╚╔╩╦╠═╬╧╨╤╥╙╘╒╓╫╪┘┌█▄▌▐▀ωάέήϊίόύϋώΆΈΉΊΌΎΏ±≥≤ΪΫ÷≈°∙·√ⁿ²■\xa0"),
   ("cp775",
    asciiHalf ++ "ĆüéāäģåćłēŖŗīŹÄÅÉæÆōöĢ¢ŚśÖÜø£Ø×¤ĀĪóŻżź\u201d¦©®¬½¼Ł«»░▒▓│┤ĄČĘĖ╣║╗╝ĮŠ┐└┴┬├─┼ŲŪ╚╔╩╦╠═╬Žąčęėįšųūž┘┌█▄▌▐▀ÓßŌŃõÕµńĶķĻļņĒŅ\u2019\xad±\u201c¾¶§÷\u201e°∙·¹³²■\xa0"),
   ("cp850",
    asciiHalf ++ "ÇüéâäàåçêëèïîìÄÅÉæÆôöòûùÿÖÜø£Ø×ƒáíóúñÑªº¿®¬½¼¡«»░▒▓│┤ÁÂÀ©╣║╗╝¢¥┐└┴┬├─┼ãÃ╚╔╩╦╠═╬¤ðÐÊËÈıÍÎÏ┘┌█▄¦Ì▀ÓßÔÒõÕµþÞÚÛÙýÝ¯´\xad±\u2017¾¶§÷¸°¨·¹³²■\xa0"),
   ("cp852",
    asciiHalf ++ "ÇüéâäůćçłëŐőîŹÄĆÉĹĺôöĽľŚśÖÜŤťŁ×čáíóúĄąŽžĘę¬źČş«»░▒▓│┤ÁÂĚŞ╣║╗╝Żż┐└┴┬├─┼Ăă╚╔╩╦╠═╬¤đĐĎËďŇÍÎě┘┌█▄ŢŮ▀ÓßÔŃńňŠšŔÚŕŰýÝţ´\xad˝˛ˇ˘§÷¸°¨˙űŘř■\xa0"),
   ("cp855",
    asciiHalf ++ "ђЂѓЃёЁєЄѕЅіІїЇјЈљЉњЊћЋќЌўЎџЏюЮъЪаАбБцЦдДеЕфФгГ«»░▒▓│┤хХиИ╣║╗╝йЙ┐└┴┬├─┼кК╚╔╩╦╠═╬¤лЛмМнНоОп┘┌█▄Пя▀ЯрРсСтТуУжЖвВьЬ№\xadыЫзЗшШэЭщЩчЧ§■\xa0"),
   ("cp856",
    asciiHalf ++ (codeRun 0x5D0 27 ++ "\ufffe£\ufffe×" ++ codeFill 0xFFFE 10 ++ "®¬½¼\ufffe«»░▒▓│┤\ufffe\ufffe\ufffe©╣║╗╝¢¥┐└┴┬├─┼\ufffe\ufffe╚╔╩╦╠═╬¤" ++ codeFill 0xFFFE 9 ++ "┘┌█▄¦\ufffe▀" ++ codeFill 0xFFFE 6 ++ "µ" ++ codeFill 0xFFFE 7 ++ "¯´\xad±\u2017¾¶§÷¸°¨·¹³²■\xa0")),
   ("cp857",
    asciiHalf ++ "ÇüéâäàåçêëèïîıÄÅÉæÆôöòûùİÖÜø£ØŞşáíóúñÑĞğ¿®¬½¼¡«»░▒▓│┤ÁÂÀ©╣║╗╝¢¥┐└┴┬├─┼ãÃ╚╔╩╦╠═╬¤ºªÊËÈ\ufffeÍÎÏ┘┌█▄¦Ì▀ÓßÔÒõÕµ\ufffe×ÚÛÙìÿ¯´\xad±\ufffe¾¶§÷¸°¨·¹³²■\xa0"),
   ("cp858",
    asciiHalf ++ "ÇüéâäàåçêëèïîìÄÅÉæÆôöòûùÿÖÜø£Ø×ƒáíóúñÑªº¿®¬½¼¡«»░▒▓│┤ÁÂÀ©╣║╗╝¢¥┐└┴┬├─┼ãÃ╚╔╩╦╠═╬¤ðÐÊËÈ€ÍÎÏ┘┌█▄¦Ì▀ÓßÔÒõÕµþÞÚÛÙýÝ¯´\xad±\u2017¾¶§÷¸°¨·¹³²■\xa0"),
   ("cp860",
    asciiHalf ++ "ÇüéâãàÁçêÊèÍÔìÃÂÉÀÈôõòÚùÌÕÜ¢£Ù₧ÓáíóúñÑªº¿Ò¬½¼¡«»░▒▓│┤╡╢╖╕╣║╗╝╜╛┐└┴┬├─┼╞╟╚╔╩╦╠═╬╧╨╤╥╙╘╒╓╫╪┘┌█▄▌▐▀αßΓπΣσµτΦΘΩδ∞φε∩≡±≥≤⌠⌡÷≈°∙·√ⁿ²■\xa0"),
   ("cp861",
    asciiHalf ++ "ÇüéâäàåçêëèÐðÞÄÅÉæÆôöþûÝýÖÜø£Ø₧ƒáíóúÁÍÓÚ¿⌐¬½¼¡«»░▒▓│┤╡╢╖╕╣║╗╝╜╛┐└┴┬├─┼╞╟╚╔╩╦╠═╬╧╨╤╥╙╘╒╓╫╪┘┌█▄▌▐▀αßΓπΣσµτΦΘΩδ∞φε∩≡±≥≤⌠⌡÷≈°∙·√ⁿ²■\xa0"),
   ("cp862",
    asciiHalf ++ (codeRun 0x5D0 27 ++ "¢£¥₧ƒáíóúñÑªº¿⌐¬½¼¡«»░▒▓│┤╡╢╖╕╣║╗╝╜╛┐└┴┬├─┼╞╟╚╔╩╦╠═╬╧╨╤╥╙╘╒╓╫╪┘┌█▄▌▐▀αßΓπΣσµτΦΘΩδ∞φε∩≡±≥≤⌠⌡÷≈°∙·√ⁿ²■\xa0")),
   ("cp863",
    asciiHalf ++ "ÇüéâÂà¶çêëèïî\u2017À§ÉÈÊôËÏûù¤ÔÜ¢£ÙÛƒ¦´óú¨¸³¯Î⌐¬½¼¾«»░▒▓│┤╡╢╖╕╣║╗╝╜╛┐└┴┬├─┼╞╟╚╔╩╦╠═╬╧╨╤╥╙╘╒╓╫╪┘┌█▄▌▐▀αßΓπΣσµτΦΘΩδ∞φε∩≡±≥≤⌠⌡÷≈°∙·√ⁿ²■\xa0"),
   ("cp864",
    (codeRun 0x0 37 ++ "٪" ++ codeRun 0x26 90 ++ "°·∙√▒─│┼┤┬├┴┐┌└┘β∞φ±½¼≈«»ﻷﻸ\ufffe\ufffeﻻﻼ\ufffe\xa0\xadﺂ£¤ﺄ\ufffe\ufffeﺎﺏﺕﺙ،ﺝﺡﺥ٠١٢٣٤٥٦٧٨٩ﻑ؛ﺱﺵﺹ؟¢ﺀﺁﺃﺅﻊﺋﺍﺑﺓﺗﺛﺟﺣﺧﺩﺫﺭﺯﺳﺷﺻﺿﻁﻅﻋﻏ¦¬÷×ﻉـﻓﻗﻛﻟﻣﻧﻫﻭﻯﻳﺽﻌﻎﻍﻡﹽّﻥﻩﻬﻰﻲﻐﻕﻵﻶﻝﻙﻱ■\ufffe")),
   ("cp865",
    asciiHalf ++ "ÇüéâäàåçêëèïîìÄÅÉæÆôöòûùÿÖÜø£Ø₧ƒáíóúñÑªº¿⌐¬½¼¡«¤░▒▓│┤╡╢╖╕╣║╗╝╜╛┐└┴┬├─┼╞╟╚╔╩╦╠═╬╧╨╤╥╙╘╒╓╫╪┘┌█▄▌▐▀αßΓπΣσµτΦΘΩδ∞φε∩≡±≥≤⌠⌡÷≈°∙·√ⁿ²■\xa0"),
   ("cp866",
    asciiHalf ++ (codeRun 0x410 48 ++ "░▒▓│┤╡╢╖╕╣║╗╝╜╛┐└┴┬├─┼╞╟╚╔╩╦╠═╬╧╨╤╥╙╘╒╓╫╪┘┌█▄▌▐▀" ++ codeRun 0x440 16 ++ "ЁёЄєЇїЎў°∙·√№¤■\xa0")),
   ("cp869",
    asciiHalf ++ (codeFill 0xFFFE 6 ++ "Ά\ufffe·¬¦\u2018\u2019Έ\u2015ΉΊΪΌ\ufffe\ufffeΎΫ©Ώ²³ά£έήίϊΐόύΑΒΓΔΕΖΗ½ΘΙ«»░▒▓│┤ΚΛΜΝ╣║╗╝ΞΟ┐└┴┬├─┼ΠΡ╚╔╩╦╠═╬ΣΤΥΦΧΨΩαβγ┘┌█▄δε▀ζηθικλμνξοπρσςτ΄\xad±υφχ§ψ΅°¨ωϋΰώ■\xa0")),
   ("cp874",
    asciiHalf ++ ("€\ufffe\ufffe\ufffe\ufffe\u2026" ++ codeFill 0xFFFE 11 ++ "\u2018\u2019\u201c\u201d\u2022\u2013\u2014" ++ codeFill 0xFFFE 8 ++ "\xa0" ++ codeRun 0xE01 58 ++ "\ufffe\ufffe\ufffe\ufffe" ++ codeRun 0xE3F 29 ++ "\ufffe\ufffe\ufffe\ufffe")),
   ("cp875",
    ("\x00\x01\x02\x03\x9c\x09\x86\x7f\x97\x8d\x8e" ++ codeRun 0xB 9 ++ "\x9d\x85\x08\x87\x18\x19\x92\x8f\x1c\x1d\x1e\x1f\x80\x81\x82\x83\x84\x0a\x17\x1b\x88\x89\x8a\x8b\x8c\x05\x06\x07\x90\x91\x16\x93\x94\x95\x96\x04\x98\x99\x9a\x9b\x14\x15\x9e\x1a ΑΒΓΔΕΖΗΘΙ[.<(+!&ΚΛΜΝΞΟΠΡΣ]$*);^-/ΤΥΦΧΨΩΪΫ|,%_>?¨ΆΈΉ\xa0ΊΌΎΏ\x60:#@\x27=\x22΅abcdefghiαβγδεζ°jklmnopqrηθικλμ´~stuvwxyzνξοπρσ£άέήϊίόύϋώςτυφχψ\x7bABCDEFGHI\xadωΐΰ\u2018\u2015\x7dJKLMNOPQR±½\x1a·\u2019¦\x5c\x1aSTUVWXYZ²§\x1a\x1a«¬0123456789³©\x1a\x1a»\x9f")),
   ("hp_roman8",
    asciiHalf ++ (codeRun 0x80 33 ++ "ÀÂÈÊËÎÏ´ˋˆ¨˜ÙÛ₤¯Ýý°ÇçÑñ¡¿¤£¥§ƒ¢âêôûáéóúàèòùäëöüÅîØÆåíøæÄìÖÜÉïßÔÁÃãÐðÍÌÓÒÕõŠšÚŸÿÞþ·µ¶¾\u2014¼½ªº«■»±\ufffe")),
   ("iso8859_1",
    asciiHalf ++ codeRun 0x80 128),
   ("iso8859_10",
    asciiHalf ++ (codeRun 0x80 33 ++ "ĄĒĢĪĨĶ§ĻĐŠŦŽ\xadŪŊ°ąēģīĩķ·ļđšŧž\u2015ūŋĀÁÂÃÄÅÆĮČÉĘËĖÍÎÏÐŅŌÓÔÕÖŨØŲÚÛÜÝÞßāáâãäåæįčéęëėíîïðņōóôõöũøųúûüýþĸ")),
   ("iso8859_11",
    asciiHalf ++ (codeRun 0x80 33 ++ codeRun 0xE01 58 ++ "\ufffe\ufffe\ufffe\ufffe" ++ codeRun 0xE3F 29 ++ "\ufffe\ufffe\ufffe\ufffe")),
   ("iso8859_13",
    asciiHalf ++ (codeRun 0x80 33 ++ "\u201d¢£¤\u201e¦§Ø©Ŗ«¬\xad®Æ°±²³\u201cµ¶·ø¹ŗ»¼½¾æĄĮĀĆÄÅĘĒČÉŹĖĢĶĪĻŠŃŅÓŌÕÖ×ŲŁŚŪÜŻŽßąįāćäåęēčéźėģķīļšńņóōõö÷ųłśūüżž\u2019")),
   ("iso8859_14",
    asciiHalf ++ (codeRun 0x80 33 ++ "Ḃḃ£ĊċḊ§Ẁ©ẂḋỲ\xad®ŸḞḟĠġṀṁ¶ṖẁṗẃṠỳẄẅṡ" ++ codeRun 0xC0 16 ++ "ŴÑÒÓÔÕÖṪØÙÚÛÜÝŶ" ++ codeRun 0xDF 17 ++ "ŵñòóôõöṫøùúûüýŷÿ")),
   ("iso8859_15",
    asciiHalf ++ (codeRun 0x80 36 ++ "€¥Š§š©ª«¬\xad®¯°±²³Žµ¶·ž¹º»ŒœŸ" ++ codeRun 0xBF 65)),
   ("iso8859_16",
    asciiHalf ++ (codeRun 0x80 33 ++ "ĄąŁ€\u201eŠ§š©Ș«Ź\xadźŻ°±ČłŽ\u201d¶·žčș»ŒœŸżÀÁÂĂÄĆÆÇÈÉÊËÌÍÎÏĐŃÒÓÔŐÖŚŰÙÚÛÜĘȚßàáâăäćæçèéêëìíîïđńòóôőöśűùúûüęțÿ")),
   ("iso8859_2",
    asciiHalf ++ (codeRun 0x80 33 ++ "Ą˘Ł¤ĽŚ§¨ŠŞŤŹ\xadŽŻ°ą˛ł´ľśˇ¸šşťź˝žżŔÁÂĂÄĹĆÇČÉĘËĚÍÎĎĐŃŇÓÔŐÖ×ŘŮÚŰÜÝŢßŕáâăäĺćçčéęëěíîďđńňóôőö÷řůúűüýţ˙")),
   ("iso8859_3",
    asciiHalf ++ (codeRun 0x80 33 ++ "Ħ˘£¤\ufffeĤ§¨İŞĞĴ\xad\ufffeŻ°ħ²³´µĥ·¸ışğĵ½\ufffeżÀÁÂ\ufffeÄĊĈÇÈÉÊËÌÍÎÏ\ufffeÑÒÓÔĠÖ×ĜÙÚÛÜŬŜßàáâ\ufffeäċĉçèéêëìíîï\ufffeñòóôġö÷ĝùúûüŭŝ˙")),
   ("iso8859_4",
    asciiHalf ++ (codeRun 0x80 33 ++ "ĄĸŖ¤ĨĻ§¨ŠĒĢŦ\xadŽ¯°ą˛ŗ´ĩļˇ¸šēģŧŊžŋĀÁÂÃÄÅÆĮČÉĘËĖÍÎĪĐŅŌĶÔÕÖ×ØŲÚÛÜŨŪßāáâãäåæįčéęëėíîīđņōķôõö÷øųúûüũū˙")),
   ("iso8859_5",
    asciiHalf ++ (codeRun 0x80 33 ++ "ЁЂЃЄЅІЇЈЉЊЋЌ\xad" ++ codeRun 0x40E 66 ++ "№ёђѓєѕіїјљњћќ§ўџ")),
   ("iso8859_6",
    asciiHalf ++ (codeRun 0x80 33 ++ "\ufffe\ufffe\ufffe¤" ++ codeFill 0xFFFE 7 ++ "،\xad" ++ codeFill 0xFFFE 13 ++ "؛\ufffe\ufffe\ufffe؟\ufffe" ++ codeRun 0x621 26 ++ "\ufffe\ufffe\ufffe\ufffe\ufffe" ++ codeRun 0x640 19 ++ codeFill 0xFFFE 13)),
   ("iso8859_7",
    asciiHalf ++ (codeRun 0x80 33 ++ "\u2018\u2019£€₯¦§¨©ͺ«¬\xad\ufffe\u2015°±²³΄΅Ά·ΈΉΊ»Ό½" ++ codeRun 0x38E 20 ++ "\ufffe" ++ codeRun 0x3A3 44 ++ "\ufffe")),
   ("iso8859_8",
    asciiHalf ++ (codeRun 0x80 33 ++ "\ufffe¢£¤¥¦§¨©×" ++ codeRun 0xAB 15 ++ "÷»¼½¾" ++ codeFill 0xFFFE 32 ++ "\u2017" ++ codeRun 0x5D0 27 ++ "\ufffe\ufffe\u200e\u200f\ufffe")),
   ("iso8859_9",
    asciiHalf ++ (codeRun 0x80 80 ++ "ĞÑÒÓÔÕÖ×ØÙÚÛÜİŞ" ++ codeRun 0xDF 17 ++ "ğñòóôõö÷øùúûüışÿ")),
   ("koi8_r",
    asciiHalf ++ "─│┌┐└┘├┤┬┴┼▀▄█▌▐░▒▓⌠■∙√≈≤≥\xa0⌡°²·÷═║╒ё╓╔╕╖╗╘╙╚╛╜╝╞╟╠╡Ё╢╣╤╥╦╧╨╩╪╫╬©юабцдефгхийклмнопярстужвьызшэщчъЮАБЦДЕФГХИЙКЛМНОПЯРСТУЖВЬЫЗШЭЩЧЪ"),
   ("koi8_t",
    asciiHalf ++ "қғ\u201aҒ\u201e\u2026\u2020\u2021\ufffe\u2030ҳ\u2039ҲҷҶ\ufffeҚ\u2018\u2019\u201c\u201d\u2022\u2013\u2014\ufffe™\ufffe\u203a\ufffe\ufffe\ufffe\ufffe\ufffeӯӮё¤ӣ¦§\ufffe\ufffe\ufffe«¬\xad®\ufffe°±²Ё\ufffeӢ¶·\ufffe№\ufffe»\ufffe\ufffe\ufffe©юабцдефгхийклмнопярстужвьызшэщчъЮАБЦДЕФГХИЙКЛМНОПЯРСТУЖВЬЫЗШЭЩЧЪ"),
   ("koi8_u",
    asciiHalf ++ "─│┌┐└┘├┤┬┴┼▀▄█▌▐░▒▓⌠■∙√≈≤≥\xa0⌡°²·÷═║╒ёє╔ії╗╘╙╚╛ґ╝╞╟╠╡ЁЄ╣ІЇ╦╧╨╩╪Ґ╬©юабцдефгхийклмнопярстужвьызшэщчъЮАБЦДЕФГХИЙКЛМНОПЯРСТУЖВЬЫЗШЭЩЧЪ"),
   ("kz1048",
    asciiHalf ++ ("ЂЃ\u201aѓ\u201e\u2026\u2020\u2021€\u2030Љ\u2039ЊҚҺЏђ\u2018\u2019\u201c\u201d\u2022\u2013\u2014\ufffe™љ\u203aњқһџ\xa0ҰұӘ¤Ө¦§Ё©Ғ«¬\xad®Ү°±Ііөµ¶·ё№ғ»әҢңү" ++ codeRun 0x410 64)),
   ("mac_arabic",
    asciiHalf ++ "Ä\xa0ÇÉÑÖÜáàâäں«çéèêëí\u2026îïñó»ôö÷úùûü !\x22#$٪&\x27()*+،-./٠١٢٣٤٥٦٧٨٩:؛<=>؟❊ءآأؤإئابةتثجحخدذرزسشصضطظعغ[\x5c]^_ـفقكلمنهوىيًٌٍَُِّْپٹچەڤگڈڑ\x7b|\x7dژے"),
   ("mac_croatian",
    asciiHalf ++ "ÄÅÇÉÑÖÜáàâäãåçéèêëíìîïñóòôöõúùûü\u2020°¢£§\u2022¶ß®Š™´¨≠ŽØ∞±≤≥∆µ∂∑∏š∫ªºΩžø¿¡¬√ƒ≈Ć«Č\u2026\xa0ÀÃÕŒœĐ\u2014\u201c\u201d\u2018\u2019÷◊\uf8ff©\u2044€\u2039\u203aÆ»\u2013·\u201a\u201e\u2030ÂćÁčÈÍÎÏÌÓÔđÒÚÛÙıˆ˜¯πË˚¸Êæˇ"),
   ("mac_cyrillic",
    asciiHalf ++ (codeRun 0x410 32 ++ "\u2020°Ґ£§\u2022¶І®©™Ђђ≠Ѓѓ∞±≤≥іµґЈЄєЇїЉљЊњјЅ¬√ƒ≈∆«»\u2026\xa0ЋћЌќѕ\u2013\u2014\u201c\u201d\u2018\u2019÷\u201eЎўЏџ№Ёёя" ++ codeRun 0x430 31 ++ "€")),
   ("mac_farsi",
    asciiHalf ++ "Ä\xa0ÇÉÑÖÜáàâäں«çéèêëí\u2026îïñó»ôö÷úùûü !\x22#$٪&\x27()*+،-./۰۱۲۳۴۵۶۷۸۹:؛<=>؟❊ءآأؤإئابةتثجحخدذرزسشصضطظعغ[\x5c]^_ـفقكلمنهوىيًٌٍَُِّْپٹچەڤگڈڑ\x7b|\x7dژے"),
   ("mac_greek",
    asciiHalf ++ "Ä¹²É³ÖÜ΅àâä΄¨çéèêë£™îï\u2022½\u2030ôö¦€ùûü\u2020ΓΔΘΛΞΠß®©ΣΪ§≠°·Α±≤≥¥ΒΕΖΗΙΚΜΦΫΨΩάΝ¬ΟΡ≈Τ«»\u2026\xa0ΥΧΆΈœ\u2013\u2015\u201c\u201d\u2018\u2019÷ΉΊΌΎέήίόΏύαβψδεφγηιξκλμνοπώρστθωςχυζϊϋΐΰ\xad"),
   ("mac_iceland",
    asciiHalf ++ "ÄÅÇÉÑÖÜáàâäãåçéèêëíìîïñóòôöõúùûüÝ°¢£§\u2022¶ß®©™´¨≠ÆØ∞±≤≥¥µ∂∑∏π∫ªºΩæø¿¡¬√ƒ≈∆«»\u2026\xa0ÀÃÕŒœ\u2013\u2014\u201c\u201d\u2018\u2019÷◊ÿŸ\u2044€ÐðÞþý·\u201a\u201e\u2030ÂÊÁËÈÍÎÏÌÓÔ\uf8ffÒÚÛÙıˆ˜¯˘˙˚¸˝˛ˇ"),
   ("mac_latin2",
    asciiHalf ++ "ÄĀāÉĄÖÜáąČäčĆćéŹźĎíďĒēĖóėôöõúĚěü\u2020°Ę£§\u2022¶ß®©™ę¨≠ģĮįĪ≤≥īĶ∂∑łĻļĽľĹĺŅņŃ¬√ńŇ∆«»\u2026\xa0ňŐÕőŌ\u2013\u2014\u201c\u201d\u2018\u2019÷◊ōŔŕŘ\u2039\u203ařŖŗŠ\u201a\u201ešŚśÁŤťÍŽžŪÓÔūŮÚůŰűŲųÝýķŻŁżĢˇ"),
   ("mac_roman",
    asciiHalf ++ "ÄÅÇÉÑÖÜáàâäãåçéèêëíìîïñóòôöõúùûü\u2020°¢£§\u2022¶ß®©™´¨≠ÆØ∞±≤≥¥µ∂∑∏π∫ªºΩæø¿¡¬√ƒ≈∆«»\u2026\xa0ÀÃÕŒœ\u2013\u2014\u201c\u201d\u2018\u2019÷◊ÿŸ\u2044€\u2039\u203aﬁﬂ\u2021·\u201a\u201e\u2030ÂÊÁËÈÍÎÏÌÓÔ\uf8ffÒÚÛÙıˆ˜¯˘˙˚¸˝˛ˇ"),
   ("mac_romanian",
    asciiHalf ++ "ÄÅÇÉÑÖÜáàâäãåçéèêëíìîïñóòôöõúùûü\u2020°¢£§\u2022¶ß®©™´¨≠ĂȘ∞±≤≥¥µ∂∑∏π∫ªºΩăș¿¡¬√ƒ≈∆«»\u2026\xa0ÀÃÕŒœ\u2013\u2014\u201c\u201d\u2018\u2019÷◊ÿŸ\u2044€\u2039\u203aȚț\u2021·\u201a\u201e\u2030ÂÊÁËÈÍÎÏÌÓÔ\uf8ffÒÚÛÙıˆ˜¯˘˙˚¸˝˛ˇ"),
   ("mac_turkish",
    asciiHalf ++ "ÄÅÇÉÑÖÜáàâäãåçéèêëíìîïñóòôöõúùûü\u2020°¢£§\u2022¶ß®©™´¨≠ÆØ∞±≤≥¥µ∂∑∏π∫ªºΩæø¿¡¬√ƒ≈∆«»\u2026\xa0ÀÃÕŒœ\u2013\u2014\u201c\u201d\u2018\u2019÷◊ÿŸĞğİıŞş\u2021·\u201a\u201e\u2030ÂÊÁËÈÍÎÏÌÓÔ\uf8ffÒÚÛÙ\uf8a0ˆ˜¯˘˙˚¸˝˛ˇ"),
   ("palmos",
    asciiHalf ++ ("€\x81\u201aƒ\u201e\u2026\u2020\u2021ˆ\u2030Š\u2039Œ♦♣♥♠\u2018\u2019\u201c\u201d\u2022\u2013\u2014˜™š\x9bœ\x9d\x9eŸ" ++ codeRun 0xA0 96)),
   ("ptcp154",
    asciiHalf ++ ("ҖҒӮғ\u201e\u2026ҶҮҲүҠӢҢҚҺҸҗ\u2018\u2019\u201c\u201d\u2022\u2013\u2014ҳҷҡӣңқһҹ\xa0ЎўЈӨҘҰ§Ё©Ә«¬ӯ®Ҝ°ұІіҙө¶·ё№ә»јҪҫҝ" ++ codeRun 0x410 64)),
   ("tis_620",
    asciiHalf ++ (codeRun 0x80 32 ++ "\ufffe" ++ codeRun 0xE01 58 ++ "\ufffe\ufffe\ufffe\ufffe" ++ codeRun 0xE3F 29 ++ "\ufffe\ufffe\ufffe\ufffe"))]

/-- The mark of a byte without a character. -/
def noChar : Char := Char.ofNat 0xFFFE

/-- The character of a byte in a table, if it has one. -/
def charOf? (table : Array Char) (b : UInt8) : Option Char :=
  match table[b.toNat]? with
  | some c => if c == noChar then none else some c
  | none => none

/-- The last byte whose character in a table is `c`. -/
def byteOf? (table : Array Char) (c : Char) : Option UInt8 :=
  if c == noChar then none
  else (table.toList.zipIdx.foldl (fun acc (d, i) => if d == c then some (UInt8.ofNat i) else acc) none)

/-- Decodes bytes in a single-byte set, piece by piece from offset `pos`. -/
def singleBytePieces (table : Array Char) (pos : Nat) : List UInt8 → List Piece
  | [] => []
  | b :: rest =>
    (match charOf? table b with
      | some c => Piece.char c
      | none => Piece.bad pos (pos + 1) "character maps to <undefined>") :: singleBytePieces table (pos + 1) rest

/-- Encodes text in a single-byte set. -/
def singleByteEncode (table : Array Char) (text : List Char) : Except EncodeFault (List UInt8) :=
  encodeEach "charmap" "character maps to <undefined>" (fun c => (byteOf? table c).map ([·])) text

theorem singleBytePieces_length (table : Array Char) (pos : Nat) (bs : List UInt8) :
    (singleBytePieces table pos bs).length = bs.length := by
  induction bs generalizing pos with
  | nil => rfl
  | cons b rest ih => simp [singleBytePieces, ih]

end VCard.Charset
