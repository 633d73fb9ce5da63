import ScopedAnalytics.Charset.Page

/-! Charsets of Cyrillic script beside the others. -/
namespace ScopedAnalytics.Charset.Page

def koi8R : Page where
  name := "koi8_r"
  aliases := ["cskoi8r"]
  first := 0x80
  rows := [
    "─│┌┐└┘├┤┬┴┼▀▄█▌▐",
    "░▒▓⌠■∙√≈≤≥\u00a0⌡°²·÷",
    "═║╒ё╓╔╕╖╗╘╙╚╛╜╝╞",
    "╟╠╡Ё╢╣╤╥╦╧╨╩╪╫╬©",
    "юабцдефгхийклмно",
    "пярстужвьызшэщчъ",
    "ЮАБЦДЕФГХИЙКЛМНО",
    "ПЯРСТУЖВЬЫЗШЭЩЧЪ"]

def koi8T : Page where
  name := "koi8_t"
  first := 0x80
  rows := [
    "қғ‚Ғ„…†‡�‰ҳ‹ҲҷҶ�",
    "Қ‘’“”•–—�™�›����",
    "�ӯӮё¤ӣ¦§���«¬\u00ad®�",
    "°±²Ё�Ӣ¶·�№�»���©",
    "юабцдефгхийклмно",
    "пярстужвьызшэщчъ",
    "ЮАБЦДЕФГХИЙКЛМНО",
    "ПЯРСТУЖВЬЫЗШЭЩЧЪ"]

def koi8U : Page where
  name := "koi8_u"
  first := 0x80
  rows := [
    "─│┌┐└┘├┤┬┴┼▀▄█▌▐",
    "░▒▓⌠■∙√≈≤≥\u00a0⌡°²·÷",
    "═║╒ёє╔ії╗╘╙╚╛ґ╝╞",
    "╟╠╡ЁЄ╣ІЇ╦╧╨╩╪Ґ╬©",
    "юабцдефгхийклмно",
    "пярстужвьызшэщчъ",
    "ЮАБЦДЕФГХИЙКЛМНО",
    "ПЯРСТУЖВЬЫЗШЭЩЧЪ"]

def kz1048 : Page where
  name := "kz1048"
  aliases := ["kz_1048","rk1048","strk1048_2002"]
  first := 0x80
  rows := [
    "ЂЃ‚ѓ„…†‡€‰Љ‹ЊҚҺЏ",
    "ђ‘’“”•–—�™љ›њқһџ",
    "\u00a0ҰұӘ¤Ө¦§Ё©Ғ«¬\u00ad®Ү",
    "°±Ііөµ¶·ё№ғ»әҢңү",
    "АБВГДЕЖЗИЙКЛМНОП",
    "РСТУФХЦЧШЩЪЫЬЭЮЯ",
    "абвгдежзийклмноп",
    "рстуфхцчшщъыьэюя"]

def ptcp154 : Page where
  name := "ptcp154"
  aliases := ["csptcp154","pt154","cp154","cyrillic_asian"]
  first := 0x80
  rows := [
    "ҖҒӮғ„…ҶҮҲүҠӢҢҚҺҸ",
    "җ‘’“”•–—ҳҷҡӣңқһҹ",
    "\u00a0ЎўЈӨҘҰ§Ё©Ә«¬ӯ®Ҝ",
    "°ұІіҙө¶·ё№ә»јҪҫҝ",
    "АБВГДЕЖЗИЙКЛМНОП",
    "РСТУФХЦЧШЩЪЫЬЭЮЯ",
    "абвгдежзийклмноп",
    "рстуфхцчшщъыьэюя"]

def cyrillicPages : List Page :=
  [koi8R,koi8T,koi8U,kz1048,ptcp154]

end ScopedAnalytics.Charset.Page
