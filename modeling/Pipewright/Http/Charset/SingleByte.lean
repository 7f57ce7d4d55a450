/-!
# Charsets of one byte

What the bytes from 128 on mean in each charset that gives every byte one character; the bytes below
mean ASCII in all of them. The replacement character stands where a byte means nothing.
-/
namespace Pipewright.Http.Charset

/-- A charset that gives every byte one character. -/
inductive SingleByte where
  /-- The charset ibm866. -/
  | cyrillicDos
  /-- The charset iso-8859-2. -/
  | latin2
  /-- The charset iso-8859-3. -/
  | latin3
  /-- The charset iso-8859-4. -/
  | latin4
  /-- The charset iso-8859-5. -/
  | cyrillic
  /-- The charset iso-8859-6. -/
  | arabic
  /-- The charset iso-8859-7. -/
  | greek
  /-- The charset iso-8859-8. -/
  | hebrew
  /-- The charset iso-8859-10. -/
  | latin6
  /-- The charset iso-8859-13. -/
  | latin7
  /-- The charset iso-8859-14. -/
  | latin8
  /-- The charset iso-8859-15. -/
  | latin9
  /-- The charset iso-8859-16. -/
  | latin10
  /-- The charset koi8-r. -/
  | koi8Russian
  /-- The charset koi8-u. -/
  | koi8Ukrainian
  /-- The charset macintosh. -/
  | macRoman
  /-- The charset windows-874. -/
  | thaiWindows
  /-- The charset windows-1250. -/
  | centralWindows
  /-- The charset windows-1251. -/
  | cyrillicWindows
  /-- The charset windows-1252. -/
  | westernWindows
  /-- The charset windows-1253. -/
  | greekWindows
  /-- The charset windows-1254. -/
  | turkishWindows
  /-- The charset windows-1255. -/
  | hebrewWindows
  /-- The charset windows-1256. -/
  | arabicWindows
  /-- The charset windows-1257. -/
  | balticWindows
  /-- The charset windows-1258. -/
  | vietnameseWindows
  /-- The charset x-mac-cyrillic. -/
  | macCyrillic
  deriving DecidableEq

namespace SingleByte

/-- The characters of the bytes from 128 on, in order. -/
def upper : SingleByte → String
  | cyrillicDos =>
    "АБВГДЕЖЗИЙКЛМНОПРСТУФХЦЧШЩЪЫЬЭЮЯабвгдежзийклмноп░▒▓│┤╡╢╖╕╣║╗╝╜╛┐└┴┬├─┼╞╟╚╔╩╦╠═╬╧╨╤╥╙╘╒"
      ++ "╓╫╪┘┌█▄▌▐▀рстуфхцчшщъыьэюяЁёЄєЇїЎў°∙·√№¤■\u00a0"
  | latin2 =>
    "\u0080\u0081\u0082\u0083\u0084\u0085\u0086\u0087\u0088\u0089\u008a\u008b\u008c\u008d"
      ++ "\u008e\u008f\u0090\u0091\u0092\u0093\u0094\u0095\u0096\u0097\u0098\u0099\u009a\u009b"
      ++ "\u009c\u009d\u009e\u009f\u00a0Ą˘Ł¤ĽŚ§¨ŠŞŤŹ\u00adŽŻ°ą˛ł´ľśˇ¸šşťź˝žżŔÁÂĂÄĹĆÇČÉĘËĚÍÎĎĐŃŇÓ"
      ++ "ÔŐÖ×ŘŮÚŰÜÝŢßŕáâăäĺćçčéęëěíîďđńňóôőö÷řůúűüýţ˙"
  | latin3 =>
    "\u0080\u0081\u0082\u0083\u0084\u0085\u0086\u0087\u0088\u0089\u008a\u008b\u008c\u008d"
      ++ "\u008e\u008f\u0090\u0091\u0092\u0093\u0094\u0095\u0096\u0097\u0098\u0099\u009a\u009b"
      ++ "\u009c\u009d\u009e\u009f\u00a0Ħ˘£¤\ufffdĤ§¨İŞĞĴ\u00ad\ufffdŻ°ħ²³´µĥ·¸ışğĵ½\ufffdżÀÁÂ"
      ++ "\ufffdÄĊĈÇÈÉÊËÌÍÎÏ\ufffdÑÒÓÔĠÖ×ĜÙÚÛÜŬŜßàáâ\ufffdäċĉçèéêëìíîï\ufffdñòóôġö÷ĝùúûüŭŝ˙"
  | latin4 =>
    "\u0080\u0081\u0082\u0083\u0084\u0085\u0086\u0087\u0088\u0089\u008a\u008b\u008c\u008d"
      ++ "\u008e\u008f\u0090\u0091\u0092\u0093\u0094\u0095\u0096\u0097\u0098\u0099\u009a\u009b"
      ++ "\u009c\u009d\u009e\u009f\u00a0ĄĸŖ¤ĨĻ§¨ŠĒĢŦ\u00adŽ¯°ą˛ŗ´ĩļˇ¸šēģŧŊžŋĀÁÂÃÄÅÆĮČÉĘËĖÍÎĪĐŅŌĶ"
      ++ "ÔÕÖ×ØŲÚÛÜŨŪßāáâãäåæįčéęëėíîīđņōķôõö÷øųúûüũū˙"
  | cyrillic =>
    "\u0080\u0081\u0082\u0083\u0084\u0085\u0086\u0087\u0088\u0089\u008a\u008b\u008c\u008d"
      ++ "\u008e\u008f\u0090\u0091\u0092\u0093\u0094\u0095\u0096\u0097\u0098\u0099\u009a\u009b"
      ++ "\u009c\u009d\u009e\u009f\u00a0ЁЂЃЄЅІЇЈЉЊЋЌ\u00adЎЏАБВГДЕЖЗИЙКЛМНОПРСТУФХЦЧШЩЪЫЬЭЮЯабвг"
      ++ "дежзийклмнопрстуфхцчшщъыьэюя№ёђѓєѕіїјљњћќ§ўџ"
  | arabic =>
    "\u0080\u0081\u0082\u0083\u0084\u0085\u0086\u0087\u0088\u0089\u008a\u008b\u008c\u008d"
      ++ "\u008e\u008f\u0090\u0091\u0092\u0093\u0094\u0095\u0096\u0097\u0098\u0099\u009a\u009b"
      ++ "\u009c\u009d\u009e\u009f\u00a0\ufffd\ufffd\ufffd¤\ufffd\ufffd\ufffd\ufffd\ufffd\ufffd"
      ++ "\ufffd\u060c\u00ad\ufffd\ufffd\ufffd\ufffd\ufffd\ufffd\ufffd\ufffd\ufffd\ufffd\ufffd"
      ++ "\ufffd\ufffd\u061b\ufffd\ufffd\ufffd\u061f\ufffd\u0621\u0622\u0623\u0624\u0625\u0626"
      ++ "\u0627\u0628\u0629\u062a\u062b\u062c\u062d\u062e\u062f\u0630\u0631\u0632\u0633\u0634"
      ++ "\u0635\u0636\u0637\u0638\u0639\u063a\ufffd\ufffd\ufffd\ufffd\ufffd\u0640\u0641\u0642"
      ++ "\u0643\u0644\u0645\u0646\u0647\u0648\u0649\u064a\u064b\u064c\u064d\u064e\u064f\u0650"
      ++ "\u0651\u0652\ufffd\ufffd\ufffd\ufffd\ufffd\ufffd\ufffd\ufffd\ufffd\ufffd\ufffd\ufffd"
      ++ "\ufffd"
  | greek =>
    "\u0080\u0081\u0082\u0083\u0084\u0085\u0086\u0087\u0088\u0089\u008a\u008b\u008c\u008d"
      ++ "\u008e\u008f\u0090\u0091\u0092\u0093\u0094\u0095\u0096\u0097\u0098\u0099\u009a\u009b"
      ++ "\u009c\u009d\u009e\u009f\u00a0‘’£€₯¦§¨©ͺ«¬\u00ad\ufffd―°±²³΄΅Ά·ΈΉΊ»Ό½ΎΏΐΑΒΓΔΕΖΗΘΙΚΛΜΝΞ"
      ++ "ΟΠΡ\ufffdΣΤΥΦΧΨΩΪΫάέήίΰαβγδεζηθικλμνξοπρςστυφχψωϊϋόύώ\ufffd"
  | hebrew =>
    "\u0080\u0081\u0082\u0083\u0084\u0085\u0086\u0087\u0088\u0089\u008a\u008b\u008c\u008d"
      ++ "\u008e\u008f\u0090\u0091\u0092\u0093\u0094\u0095\u0096\u0097\u0098\u0099\u009a\u009b"
      ++ "\u009c\u009d\u009e\u009f\u00a0\ufffd¢£¤¥¦§¨©×«¬\u00ad®¯°±²³´µ¶·¸¹÷»¼½¾\ufffd\ufffd"
      ++ "\ufffd\ufffd\ufffd\ufffd\ufffd\ufffd\ufffd\ufffd\ufffd\ufffd\ufffd\ufffd\ufffd\ufffd"
      ++ "\ufffd\ufffd\ufffd\ufffd\ufffd\ufffd\ufffd\ufffd\ufffd\ufffd\ufffd\ufffd\ufffd\ufffd"
      ++ "\ufffd\ufffd‗\u05d0\u05d1\u05d2\u05d3\u05d4\u05d5\u05d6\u05d7\u05d8\u05d9\u05da\u05db"
      ++ "\u05dc\u05dd\u05de\u05df\u05e0\u05e1\u05e2\u05e3\u05e4\u05e5\u05e6\u05e7\u05e8\u05e9"
      ++ "\u05ea\ufffd\ufffd\u200e\u200f\ufffd"
  | latin6 =>
    "\u0080\u0081\u0082\u0083\u0084\u0085\u0086\u0087\u0088\u0089\u008a\u008b\u008c\u008d"
      ++ "\u008e\u008f\u0090\u0091\u0092\u0093\u0094\u0095\u0096\u0097\u0098\u0099\u009a\u009b"
      ++ "\u009c\u009d\u009e\u009f\u00a0ĄĒĢĪĨĶ§ĻĐŠŦŽ\u00adŪŊ°ąēģīĩķ·ļđšŧž―ūŋĀÁÂÃÄÅÆĮČÉĘËĖÍÎÏÐŅŌÓ"
      ++ "ÔÕÖŨØŲÚÛÜÝÞßāáâãäåæįčéęëėíîïðņōóôõöũøųúûüýþĸ"
  | latin7 =>
    "\u0080\u0081\u0082\u0083\u0084\u0085\u0086\u0087\u0088\u0089\u008a\u008b\u008c\u008d"
      ++ "\u008e\u008f\u0090\u0091\u0092\u0093\u0094\u0095\u0096\u0097\u0098\u0099\u009a\u009b"
      ++ "\u009c\u009d\u009e\u009f\u00a0”¢£¤„¦§Ø©Ŗ«¬\u00ad®Æ°±²³“µ¶·ø¹ŗ»¼½¾æĄĮĀĆÄÅĘĒČÉŹĖĢĶĪĻŠŃŅÓ"
      ++ "ŌÕÖ×ŲŁŚŪÜŻŽßąįāćäåęēčéźėģķīļšńņóōõö÷ųłśūüżž’"
  | latin8 =>
    "\u0080\u0081\u0082\u0083\u0084\u0085\u0086\u0087\u0088\u0089\u008a\u008b\u008c\u008d"
      ++ "\u008e\u008f\u0090\u0091\u0092\u0093\u0094\u0095\u0096\u0097\u0098\u0099\u009a\u009b"
      ++ "\u009c\u009d\u009e\u009f\u00a0Ḃḃ£ĊċḊ§Ẁ©ẂḋỲ\u00ad®ŸḞḟĠġṀṁ¶ṖẁṗẃṠỳẄẅṡÀÁÂÃÄÅÆÇÈÉÊËÌÍÎÏŴÑÒÓ"
      ++ "ÔÕÖṪØÙÚÛÜÝŶßàáâãäåæçèéêëìíîïŵñòóôõöṫøùúûüýŷÿ"
  | latin9 =>
    "\u0080\u0081\u0082\u0083\u0084\u0085\u0086\u0087\u0088\u0089\u008a\u008b\u008c\u008d"
      ++ "\u008e\u008f\u0090\u0091\u0092\u0093\u0094\u0095\u0096\u0097\u0098\u0099\u009a\u009b"
      ++ "\u009c\u009d\u009e\u009f\u00a0¡¢£€¥Š§š©ª«¬\u00ad®¯°±²³Žµ¶·ž¹º»ŒœŸ¿ÀÁÂÃÄÅÆÇÈÉÊËÌÍÎÏÐÑÒÓ"
      ++ "ÔÕÖ×ØÙÚÛÜÝÞßàáâãäåæçèéêëìíîïðñòóôõö÷øùúûüýþÿ"
  | latin10 =>
    "\u0080\u0081\u0082\u0083\u0084\u0085\u0086\u0087\u0088\u0089\u008a\u008b\u008c\u008d"
      ++ "\u008e\u008f\u0090\u0091\u0092\u0093\u0094\u0095\u0096\u0097\u0098\u0099\u009a\u009b"
      ++ "\u009c\u009d\u009e\u009f\u00a0ĄąŁ€„Š§š©Ș«Ź\u00adźŻ°±ČłŽ”¶·žčș»ŒœŸżÀÁÂĂÄĆÆÇÈÉÊËÌÍÎÏĐŃÒÓ"
      ++ "ÔŐÖŚŰÙÚÛÜĘȚßàáâăäćæçèéêëìíîïđńòóôőöśűùúûüęțÿ"
  | koi8Russian =>
    "─│┌┐└┘├┤┬┴┼▀▄█▌▐░▒▓⌠■∙√≈≤≥\u00a0⌡°²·÷═║╒ё╓╔╕╖╗╘╙╚╛╜╝╞╟╠╡Ё╢╣╤╥╦╧╨╩╪╫╬©юабцдефгхийклмноп"
      ++ "ярстужвьызшэщчъЮАБЦДЕФГХИЙКЛМНОПЯРСТУЖВЬЫЗШЭЩЧЪ"
  | koi8Ukrainian =>
    "─│┌┐└┘├┤┬┴┼▀▄█▌▐░▒▓⌠■∙√≈≤≥\u00a0⌡°²·÷═║╒ёє╔ії╗╘╙╚╛ґў╞╟╠╡ЁЄ╣ІЇ╦╧╨╩╪ҐЎ©юабцдефгхийклмноп"
      ++ "ярстужвьызшэщчъЮАБЦДЕФГХИЙКЛМНОПЯРСТУЖВЬЫЗШЭЩЧЪ"
  | macRoman =>
    "ÄÅÇÉÑÖÜáàâäãåçéèêëíìîïñóòôöõúùûü†°¢£§•¶ß®©™´¨≠ÆØ∞±≤≥¥µ∂∑∏π∫ªºΩæø¿¡¬√ƒ≈∆«»…\u00a0ÀÃÕŒœ–"
      ++ "—“”‘’÷◊ÿŸ⁄€‹›ﬁﬂ‡·‚„‰ÂÊÁËÈÍÎÏÌÓÔ\uf8ffÒÚÛÙıˆ˜¯˘˙˚¸˝˛ˇ"
  | thaiWindows =>
    "€\u0081\u0082\u0083\u0084…\u0086\u0087\u0088\u0089\u008a\u008b\u008c\u008d\u008e\u008f"
      ++ "\u0090‘’“”•–—\u0098\u0099\u009a\u009b\u009c\u009d\u009e\u009f\u00a0กขฃคฅฆงจฉชซฌญฎฏฐฑฒณ"
      ++ "ดตถทธนบปผฝพฟภมยรฤลฦวศษสหฬอฮฯะัาำิีึื\u0e38\u0e39\u0e3a\ufffd\ufffd\ufffd\ufffd฿เแโใไๅๆ"
      ++ "็\u0e48\u0e49\u0e4a\u0e4b์ํ๎๏๐๑๒๓๔๕๖๗๘๙๚๛\ufffd\ufffd\ufffd\ufffd"
  | centralWindows =>
    "€\u0081‚\u0083„…†‡\u0088‰Š‹ŚŤŽŹ\u0090‘’“”•–—\u0098™š›śťžź\u00a0ˇ˘Ł¤Ą¦§¨©Ş«¬\u00ad®Ż°±˛"
      ++ "ł´µ¶·¸ąş»Ľ˝ľżŔÁÂĂÄĹĆÇČÉĘËĚÍÎĎĐŃŇÓÔŐÖ×ŘŮÚŰÜÝŢßŕáâăäĺćçčéęëěíîďđńňóôőö÷řůúűüýţ˙"
  | cyrillicWindows =>
    "ЂЃ‚ѓ„…†‡€‰Љ‹ЊЌЋЏђ‘’“”•–—\u0098™љ›њќћџ\u00a0ЎўЈ¤Ґ¦§Ё©Є«¬\u00ad®Ї°±Ііґµ¶·ё№є»јЅѕїАБВГДЕЖ"
      ++ "ЗИЙКЛМНОПРСТУФХЦЧШЩЪЫЬЭЮЯабвгдежзийклмнопрстуфхцчшщъыьэюя"
  | westernWindows =>
    "€\u0081‚ƒ„…†‡ˆ‰Š‹Œ\u008dŽ\u008f\u0090‘’“”•–—˜™š›œ\u009džŸ\u00a0¡¢£¤¥¦§¨©ª«¬\u00ad®¯°±²"
      ++ "³´µ¶·¸¹º»¼½¾¿ÀÁÂÃÄÅÆÇÈÉÊËÌÍÎÏÐÑÒÓÔÕÖ×ØÙÚÛÜÝÞßàáâãäåæçèéêëìíîïðñòóôõö÷øùúûüýþÿ"
  | greekWindows =>
    "€\u0081‚ƒ„…†‡\u0088‰\u008a‹\u008c\u008d\u008e\u008f\u0090‘’“”•–—\u0098™\u009a›\u009c"
      ++ "\u009d\u009e\u009f\u00a0΅Ά£¤¥¦§¨©\ufffd«¬\u00ad®―°±²³΄µ¶·ΈΉΊ»Ό½ΎΏΐΑΒΓΔΕΖΗΘΙΚΛΜΝΞΟΠΡ"
      ++ "\ufffdΣΤΥΦΧΨΩΪΫάέήίΰαβγδεζηθικλμνξοπρςστυφχψωϊϋόύώ\ufffd"
  | turkishWindows =>
    "€\u0081‚ƒ„…†‡ˆ‰Š‹Œ\u008d\u008e\u008f\u0090‘’“”•–—˜™š›œ\u009d\u009eŸ\u00a0¡¢£¤¥¦§¨©ª«¬"
      ++ "\u00ad®¯°±²³´µ¶·¸¹º»¼½¾¿ÀÁÂÃÄÅÆÇÈÉÊËÌÍÎÏĞÑÒÓÔÕÖ×ØÙÚÛÜİŞßàáâãäåæçèéêëìíîïğñòóôõö÷øùúûüı"
      ++ "şÿ"
  | hebrewWindows =>
    "€\u0081‚ƒ„…†‡ˆ‰\u008a‹\u008c\u008d\u008e\u008f\u0090‘’“”•–—˜™\u009a›\u009c\u009d\u009e"
      ++ "\u009f\u00a0¡¢£₪¥¦§¨©×«¬\u00ad®¯°±²³´µ¶·¸¹÷»¼½¾¿\u05b0\u05b1\u05b2\u05b3\u05b4\u05b5"
      ++ "\u05b6\u05b7\u05b8\u05b9\u05ba\u05bb\u05bc\u05bd\u05be\u05bf\u05c0\u05c1\u05c2\u05c3"
      ++ "\u05f0\u05f1\u05f2\u05f3\u05f4\ufffd\ufffd\ufffd\ufffd\ufffd\ufffd\ufffd\u05d0\u05d1"
      ++ "\u05d2\u05d3\u05d4\u05d5\u05d6\u05d7\u05d8\u05d9\u05da\u05db\u05dc\u05dd\u05de\u05df"
      ++ "\u05e0\u05e1\u05e2\u05e3\u05e4\u05e5\u05e6\u05e7\u05e8\u05e9\u05ea\ufffd\ufffd\u200e"
      ++ "\u200f\ufffd"
  | arabicWindows =>
    "€\u067e‚ƒ„…†‡ˆ‰\u0679‹Œ\u0686\u0698\u0688\u06af‘’“”•–—\u06a9™\u0691›œ\u200c\u200d"
      ++ "\u06ba\u00a0\u060c¢£¤¥¦§¨©\u06be«¬\u00ad®¯°±²³´µ¶·¸¹\u061b»¼½¾\u061f\u06c1\u0621\u0622"
      ++ "\u0623\u0624\u0625\u0626\u0627\u0628\u0629\u062a\u062b\u062c\u062d\u062e\u062f\u0630"
      ++ "\u0631\u0632\u0633\u0634\u0635\u0636×\u0637\u0638\u0639\u063a\u0640\u0641\u0642\u0643à"
      ++ "\u0644â\u0645\u0646\u0647\u0648çèéêë\u0649\u064aîï\u064b\u064c\u064d\u064eô\u064f"
      ++ "\u0650÷\u0651ù\u0652ûü\u200e\u200f\u06d2"
  | balticWindows =>
    "€\u0081‚\u0083„…†‡\u0088‰\u008a‹\u008c¨ˇ¸\u0090‘’“”•–—\u0098™\u009a›\u009c¯˛\u009f"
      ++ "\u00a0\ufffd¢£¤\ufffd¦§Ø©Ŗ«¬\u00ad®Æ°±²³´µ¶·ø¹ŗ»¼½¾æĄĮĀĆÄÅĘĒČÉŹĖĢĶĪĻŠŃŅÓŌÕÖ×ŲŁŚŪÜŻŽßąį"
      ++ "āćäåęēčéźėģķīļšńņóōõö÷ųłśūüżž˙"
  | vietnameseWindows =>
    "€\u0081‚ƒ„…†‡ˆ‰\u008a‹Œ\u008d\u008e\u008f\u0090‘’“”•–—˜™\u009a›œ\u009d\u009eŸ\u00a0¡¢£"
      ++ "¤¥¦§¨©ª«¬\u00ad®¯°±²³´µ¶·¸¹º»¼½¾¿ÀÁÂĂÄÅÆÇÈÉÊË\u0300ÍÎÏĐÑ\u0309ÓÔƠÖ×ØÙÚÛÜƯ\u0303ßàáâăäå"
      ++ "æçèéêë\u0301íîïđñ\u0323óôơö÷øùúûüư₫ÿ"
  | macCyrillic =>
    "АБВГДЕЖЗИЙКЛМНОПРСТУФХЦЧШЩЪЫЬЭЮЯ†°Ґ£§•¶І®©™Ђђ≠Ѓѓ∞±≤≥іµґЈЄєЇїЉљЊњјЅ¬√ƒ≈∆«»…\u00a0ЋћЌќѕ–"
      ++ "—“”‘’÷„ЎўЏџ№Ёёяабвгдежзийклмнопрстуфхцчшщъыьэю€"

/-- The character of a byte. -/
def toChar (charset : SingleByte) (b : UInt8) : Char :=
  if b < 128 then Char.ofNat b.toNat
  else (charset.upper.toList[b.toNat - 128]?).getD (Char.ofNat 0xFFFD)

end SingleByte

/-- The charsets of one byte by their labels, in lower case. -/
def singleByteLabels : List (String × SingleByte) :=
  [("866", .cyrillicDos), ("cp866", .cyrillicDos), ("csibm866", .cyrillicDos),
    ("ibm866", .cyrillicDos), ("csisolatin2", .latin2), ("iso-8859-2", .latin2),
    ("iso-ir-101", .latin2), ("iso8859-2", .latin2), ("iso88592", .latin2),
    ("iso_8859-2", .latin2), ("iso_8859-2:1987", .latin2), ("l2", .latin2), ("latin2", .latin2),
    ("csisolatin3", .latin3), ("iso-8859-3", .latin3), ("iso-ir-109", .latin3),
    ("iso8859-3", .latin3), ("iso88593", .latin3), ("iso_8859-3", .latin3),
    ("iso_8859-3:1988", .latin3), ("l3", .latin3), ("latin3", .latin3), ("csisolatin4", .latin4),
    ("iso-8859-4", .latin4), ("iso-ir-110", .latin4), ("iso8859-4", .latin4),
    ("iso88594", .latin4), ("iso_8859-4", .latin4), ("iso_8859-4:1988", .latin4), ("l4", .latin4),
    ("latin4", .latin4), ("csisolatincyrillic", .cyrillic), ("cyrillic", .cyrillic),
    ("iso-8859-5", .cyrillic), ("iso-ir-144", .cyrillic), ("iso8859-5", .cyrillic),
    ("iso88595", .cyrillic), ("iso_8859-5", .cyrillic), ("iso_8859-5:1988", .cyrillic),
    ("arabic", .arabic), ("asmo-708", .arabic), ("csiso88596e", .arabic),
    ("csiso88596i", .arabic), ("csisolatinarabic", .arabic), ("ecma-114", .arabic),
    ("iso-8859-6", .arabic), ("iso-8859-6-e", .arabic), ("iso-8859-6-i", .arabic),
    ("iso-ir-127", .arabic), ("iso8859-6", .arabic), ("iso88596", .arabic),
    ("iso_8859-6", .arabic), ("iso_8859-6:1987", .arabic), ("csisolatingreek", .greek),
    ("ecma-118", .greek), ("elot_928", .greek), ("greek", .greek), ("greek8", .greek),
    ("iso-8859-7", .greek), ("iso-ir-126", .greek), ("iso8859-7", .greek), ("iso88597", .greek),
    ("iso_8859-7", .greek), ("iso_8859-7:1987", .greek), ("sun_eu_greek", .greek),
    ("csiso88598e", .hebrew), ("csisolatinhebrew", .hebrew), ("hebrew", .hebrew),
    ("iso-8859-8", .hebrew), ("iso-8859-8-e", .hebrew), ("iso-ir-138", .hebrew),
    ("iso8859-8", .hebrew), ("iso88598", .hebrew), ("iso_8859-8", .hebrew),
    ("iso_8859-8:1988", .hebrew), ("visual", .hebrew), ("csiso88598i", .hebrew),
    ("iso-8859-8-i", .hebrew), ("logical", .hebrew), ("csisolatin6", .latin6),
    ("iso-8859-10", .latin6), ("iso-ir-157", .latin6), ("iso8859-10", .latin6),
    ("iso885910", .latin6), ("l6", .latin6), ("latin6", .latin6), ("iso-8859-13", .latin7),
    ("iso8859-13", .latin7), ("iso885913", .latin7), ("iso-8859-14", .latin8),
    ("iso8859-14", .latin8), ("iso885914", .latin8), ("csisolatin9", .latin9),
    ("iso-8859-15", .latin9), ("iso8859-15", .latin9), ("iso885915", .latin9),
    ("iso_8859-15", .latin9), ("l9", .latin9), ("iso-8859-16", .latin10),
    ("cskoi8r", .koi8Russian), ("koi", .koi8Russian), ("koi8", .koi8Russian),
    ("koi8-r", .koi8Russian), ("koi8_r", .koi8Russian), ("koi8-ru", .koi8Ukrainian),
    ("koi8-u", .koi8Ukrainian), ("csmacintosh", .macRoman), ("mac", .macRoman),
    ("macintosh", .macRoman), ("x-mac-roman", .macRoman), ("dos-874", .thaiWindows),
    ("iso-8859-11", .thaiWindows), ("iso8859-11", .thaiWindows), ("iso885911", .thaiWindows),
    ("tis-620", .thaiWindows), ("windows-874", .thaiWindows), ("cp1250", .centralWindows),
    ("windows-1250", .centralWindows), ("x-cp1250", .centralWindows),
    ("cp1251", .cyrillicWindows), ("windows-1251", .cyrillicWindows),
    ("x-cp1251", .cyrillicWindows), ("ansi_x3.4-1968", .westernWindows),
    ("ascii", .westernWindows), ("cp1252", .westernWindows), ("cp819", .westernWindows),
    ("csisolatin1", .westernWindows), ("ibm819", .westernWindows),
    ("iso-8859-1", .westernWindows), ("iso-ir-100", .westernWindows),
    ("iso8859-1", .westernWindows), ("iso88591", .westernWindows),
    ("iso_8859-1", .westernWindows), ("iso_8859-1:1987", .westernWindows),
    ("l1", .westernWindows), ("latin1", .westernWindows), ("us-ascii", .westernWindows),
    ("windows-1252", .westernWindows), ("x-cp1252", .westernWindows), ("cp1253", .greekWindows),
    ("windows-1253", .greekWindows), ("x-cp1253", .greekWindows), ("cp1254", .turkishWindows),
    ("csisolatin5", .turkishWindows), ("iso-8859-9", .turkishWindows),
    ("iso-ir-148", .turkishWindows), ("iso8859-9", .turkishWindows),
    ("iso88599", .turkishWindows), ("iso_8859-9", .turkishWindows),
    ("iso_8859-9:1989", .turkishWindows), ("l5", .turkishWindows), ("latin5", .turkishWindows),
    ("windows-1254", .turkishWindows), ("x-cp1254", .turkishWindows), ("cp1255", .hebrewWindows),
    ("windows-1255", .hebrewWindows), ("x-cp1255", .hebrewWindows), ("cp1256", .arabicWindows),
    ("windows-1256", .arabicWindows), ("x-cp1256", .arabicWindows), ("cp1257", .balticWindows),
    ("windows-1257", .balticWindows), ("x-cp1257", .balticWindows),
    ("cp1258", .vietnameseWindows), ("windows-1258", .vietnameseWindows),
    ("x-cp1258", .vietnameseWindows), ("x-mac-cyrillic", .macCyrillic),
    ("x-mac-ukrainian", .macCyrillic)]

end Pipewright.Http.Charset
