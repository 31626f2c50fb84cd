/-
Encodings of one octet: ASCII in the lower half, and in the upper half
the characters of a table, from the octet 80 on.
-/
import BatchAdmin.Text.Encoding.Table

namespace BatchAdmin.Text

/-- Code page 866, for Cyrillic. -/
def ibm866 : CharTable := [
  "А48░3│┤╡╢╖╕╣║╗╝╜╛┐└┴┬├─┼╞╟╚╔╩╦╠═╬╧╨╤╥",
  "╙╘╒╓╫╪┘┌█▄▌▐▀р16ЁёЄєЇїЎў°∙·√№¤■\u00a0"]

/-- ISO 8859-2, for Central Europe. -/
def iso8859Part2 : CharTable := [
  "\u008033Ą˘Ł¤ĽŚ§¨ŠŞŤŹ\u00adŽŻ°ą˛ł´ľśˇ¸šşťź˝žżŔÁÂĂÄĹĆÇČÉĘËĚÍ",
  "ÎĎĐŃŇÓÔŐÖ×ŘŮÚŰÜÝŢßŕáâăäĺćçčéęëěíîďđńňóôőö÷řůúűüýţ˙"]

/-- ISO 8859-3, for Southern Europe. -/
def iso8859Part3 : CharTable := [
  "\u008033Ħ˘£¤-Ĥ§¨İŞĞĴ\u00ad-Ż°ħ²4ĥ·¸ışğĵ½-żÀ3-ÄĊĈÇ9-Ñ4ĠÖ×Ĝ",
  "Ù4ŬŜß4-äċĉç9-ñ4ġö÷ĝù4ŭŝ˙"]

/-- ISO 8859-4, for Northern Europe. -/
def iso8859Part4 : CharTable := [
  "\u008033ĄĸŖ¤ĨĻ§¨ŠĒĢŦ\u00adŽ¯°ą˛ŗ´ĩļˇ¸šēģŧŊžŋĀÁ6ĮČÉĘËĖÍÎĪ",
  "ĐŅŌĶÔ5ŲÚ3ŨŪßāá6įčéęëėíîīđņōķô5ųú3ũū˙"]

/-- ISO 8859-5, for Cyrillic. -/
def iso8859Part5 : CharTable := [
  "\u008033Ё12\u00adЎ66№ё12§ўџ"]

/-- ISO 8859-6, for Arabic. -/
def iso8859Part6 : CharTable := [
  "\u008033-3¤-7،\u00ad-13؛-3؟-ء26-5ـ19"]

/-- ISO 8859-7, for Greek. -/
def iso8859Part7 : CharTable := [
  "\u008033‘’£€₯¦4ͺ«3-―°4΄3·Έ3»Ό½Ύ20-Σ44"]

/-- ISO 8859-8, for Hebrew. -/
def iso8859Part8 : CharTable := [
  "\u008033-¢8×«15÷»4-32‗א27-2\u200e\u200f"]

/-- ISO 8859-10, for the Nordic languages. -/
def iso8859Part10 : CharTable := [
  "\u008033ĄĒĢĪĨĶ§ĻĐŠŦŽ\u00adŪŊ°ąēģīĩķ·ļđšŧž―ūŋĀÁ6ĮČÉĘËĖÍ4ŅŌ",
  "Ó4ŨØŲÚ6āá6įčéęëėí4ņōó4ũøųú5ĸ"]

/-- ISO 8859-13, for the Baltic languages. -/
def iso8859Part13 : CharTable := [
  "\u008033”¢3„¦§Ø©Ŗ«4Æ°4“µ3ø¹ŗ»4æĄĮĀĆÄÅĘĒČÉŹĖĢĶĪĻŠŃŅÓŌÕ3ŲŁŚŪÜŻ",
  "Žßąįāćäåęēčéźėģķīļšńņóōõ3ųłśūüżž’"]

/-- ISO 8859-14, for the Celtic languages. -/
def iso8859Part14 : CharTable := [
  "\u008033Ḃḃ£ĊċḊ§Ẁ©ẂḋỲ\u00ad®ŸḞḟĠġṀṁ¶ṖẁṗẃṠỳẄẅṡÀ16ŴÑ6ṪØ6Ŷß17ŵñ6ṫø6ŷ",
  "ÿ"]

/-- ISO 8859-15, for Western Europe, with the euro sign. -/
def iso8859Part15 : CharTable := [
  "\u008036€¥Š§š©11Žµ3ž¹3ŒœŸ¿65"]

/-- ISO 8859-16, for South-Eastern Europe. -/
def iso8859Part16 : CharTable := [
  "\u008033ĄąŁ€„Š§š©Ș«Ź\u00adźŻ°±ČłŽ”¶·žčș»ŒœŸżÀ3ĂÄĆÆ10ĐŃÒ3ŐÖ",
  "ŚŰÙ4ĘȚß4ăäćæ10đńò3őöśűù4ęțÿ"]

/-- KOI8-R, for Russian. -/
def koi8R : CharTable := [
  "─│┌┐└┘├┤┬┴┼▀▄█▌▐4⌠■∙√≈≤≥\u00a0⌡°²·÷═3ё╓15Ё",
  "╢11©юабцдефгхи8яр4жвьызшэщчъЮАБЦДЕФГХ",
  "И8ЯР4ЖВЬЫЗШЭЩЧЪ"]

/-- KOI8-U, for Ukrainian and Belarusian. -/
def koi8U : CharTable := [
  "─│┌┐└┘├┤┬┴┼▀▄█▌▐4⌠■∙√≈≤≥\u00a0⌡°²·÷═3ёє╔ії",
  "╗5ґў╞4ЁЄ╣ІЇ╦5ҐЎ©юабцдефгхи8яр4жвьызшэщчъЮ",
  "АБЦДЕФГХИ8ЯР4ЖВЬЫЗШЭЩЧЪ"]

/-- The Macintosh set, for Western Europe. -/
def macintosh : CharTable := [
  "ÄÅÇÉÑÖÜáàâäãåçéèêëíìîïñóòôöõúùûü†°¢£§•¶ß®©™´¨≠",
  "ÆØ∞±≤≥¥µ∂∑∏π∫ªºΩæø¿¡¬√ƒ≈∆«»…\u00a0ÀÃÕŒœ–—“”",
  "‘’÷◊ÿŸ⁄€‹›ﬁﬂ‡·‚„‰ÂÊÁËÈÍ3ÌÓÔ\uf8ffÒÚÛÙıˆ˜¯˘3¸˝˛ˇ"]

/-- The Macintosh set, for Cyrillic. -/
def macCyrillic : CharTable := [
  "А32†°Ґ£§•¶І®©™Ђђ≠Ѓѓ∞±≤≥іµґЈЄєЇїЉљЊњјЅ¬√ƒ≈∆«»…\u00a0ЋћЌ",
  "ќѕ–—“”‘’÷„ЎўЏџ№Ёёяа31€"]

/-- Windows 874, for Thai. -/
def windows874 : CharTable := [
  "€\u00814…\u008611‘’“”•–—\u00989ก58-4฿29"]

/-- Windows 1250, for Central Europe. -/
def windows1250 : CharTable := [
  "€\u0081‚\u0083„…†‡\u0088‰Š‹ŚŤŽŹ\u0090‘’“”•–—\u0098™š›śťžź",
  "\u00a0ˇ˘Ł¤Ą¦4Ş«4Ż°±˛ł´5ąş»Ľ˝ľżŔÁÂĂÄĹĆÇČÉĘËĚÍÎĎĐŃŇÓÔŐÖ×ŘŮÚŰÜ",
  "ÝŢßŕáâăäĺćçčéęëěíîďđńňóôőö÷řůúűüýţ˙"]

/-- Windows 1251, for Cyrillic. -/
def windows1251 : CharTable := [
  "ЂЃ‚ѓ„…†‡€‰Љ‹ЊЌЋЏђ‘’“”•–—\u0098™љ›њќћџ\u00a0ЎўЈ¤Ґ¦§Ё©Є",
  "«4Ї°±Ііґµ3ё№є»јЅѕїА64"]

/-- Windows 1252, for Western Europe. -/
def windows1252 : CharTable := [
  "€\u0081‚ƒ„…†‡ˆ‰Š‹Œ\u008dŽ\u008f\u0090‘’“”•–—˜™š›œ\u009d",
  "žŸ\u00a096"]

/-- Windows 1253, for Greek. -/
def windows1253 : CharTable := [
  "€\u0081‚ƒ„…†‡\u0088‰\u008a‹\u008c5‘’“”•–—\u0098™\u009a›",
  "\u009c5΅Ά£7-«4―°4΄µ3Έ3»Ό½Ύ20-Σ44"]

/-- Windows 1254, for Turkish. -/
def windows1254 : CharTable := [
  "€\u0081‚ƒ„…†‡ˆ‰Š‹Œ\u008d4‘’“”•–—˜™š›œ\u009d\u009eŸ",
  "\u00a048ĞÑ12İŞß17ğñ12ışÿ"]

/-- Windows 1255, for Hebrew. -/
def windows1255 : CharTable := [
  "€\u0081‚ƒ„…†‡ˆ‰\u008a‹\u008c5‘’“”•–—˜™\u009a›\u009c8₪¥5×",
  "«15÷»5\u05b020װ5-7א27-2\u200e\u200f"]

/-- Windows 1256, for Arabic. -/
def windows1256 : CharTable := [
  "€پ‚ƒ„…†‡ˆ‰ٹ‹Œچژڈگ‘’“”•–—ک™ڑ›œ\u200c\u200dں\u00a0،¢8ھ«15",
  "؛»4؟ہء22×ط4ـ4àلâم4ç5ىيîï\u064b4ô\u064f\u0650÷\u0651ù\u0652ûü",
  "\u200e\u200fے"]

/-- Windows 1257, for the Baltic languages. -/
def windows1257 : CharTable := [
  "€\u0081‚\u0083„…†‡\u0088‰\u008a‹\u008c¨ˇ¸\u0090‘’“”•–—",
  "\u0098™\u009a›\u009c¯˛\u009f\u00a0-¢3-¦§Ø©Ŗ«4Æ°8ø¹ŗ»4æĄĮĀĆÄÅĘ",
  "ĒČÉŹĖĢĶĪĻŠŃŅÓŌÕ3ŲŁŚŪÜŻŽßąįāćäåęēčéźėģķīļšńņóōõ3ųłśūüżž˙"]

/-- Windows 1258, for Vietnamese. -/
def windows1258 : CharTable := [
  "€\u0081‚ƒ„…†‡ˆ‰\u008a‹Œ\u008d4‘’“”•–—˜™\u009a›œ\u009d",
  "\u009eŸ\u00a035ĂÄ8\u0300Í3ĐÑ\u0309ÓÔƠÖ7Ư\u0303ß4ăä8\u0301í3đñ\u0323",
  "óôơö7ư₫ÿ"]

end BatchAdmin.Text
