import ScopedAnalytics.Charset
import ScopedAnalytics.Charset.Page.Console
import ScopedAnalytics.Charset.Page.Cyrillic
import ScopedAnalytics.Charset.Page.Desktop
import ScopedAnalytics.Charset.Page.Mainframe
import ScopedAnalytics.Charset.Page.Standard
import ScopedAnalytics.Charset.Page.Windows

/-! Names of charsets. Each has one name of its own and others that stand for it; names are compared
in small letters and without regard to which characters separate their parts. -/
namespace ScopedAnalytics.Charset

/-- A name of a charset with the other names that stand for it. -/
structure Naming where
  charset : Charset
  name : String
  aliases : List String

def pageNamings : List Naming :=
  ([Page.ascii,Page.latin1] ++ Page.windowsPages ++ Page.standardPages ++ Page.consolePages ++
    Page.desktopPages ++ Page.mainframePages ++ Page.cyrillicPages).map fun page =>
      ⟨.page page,page.name,page.aliases⟩

def japaneseNamings : List Naming := [
  ⟨.scheme .shift,"shift_jis",["csshiftjis","shiftjis","sjis","s_jis","x_mac_japanese"]⟩,
  ⟨.scheme (.shiftPlanes .first),"shift_jisx0213",["shiftjisx0213","sjisx0213","s_jisx0213"]⟩,
  ⟨.scheme (.shiftPlanes .second),"shift_jis_2004",["shiftjis2004","sjis_2004","s_jis_2004"]⟩,
  ⟨.scheme .shiftWindows,"cp932",["932","ms932","mskanji","ms_kanji"]⟩,
  ⟨.scheme .extendedJapanese,"euc_jp",["eucjp","ujis","u_jis"]⟩,
  ⟨.scheme (.extendedPlanes .first),"euc_jisx0213",["eucjisx0213"]⟩,
  ⟨.scheme (.extendedPlanes .second),"euc_jis_2004",["jisx0213","eucjis2004","euc_jis2004"]⟩,
  ⟨.designating .japanese,"iso2022_jp",["csiso2022jp","iso2022jp","iso_2022_jp"]⟩,
  ⟨.designating .japanese1,"iso2022_jp_1",["iso2022jp_1","iso_2022_jp_1"]⟩,
  ⟨.designating .japanese2,"iso2022_jp_2",["iso2022jp_2","iso_2022_jp_2"]⟩,
  ⟨.designating .japanese3,"iso2022_jp_3",["iso2022jp_3","iso_2022_jp_3"]⟩,
  ⟨.designating .japanese2004,"iso2022_jp_2004",["iso_2022_jp_2004","iso2022jp_2004"]⟩,
  ⟨.designating .japaneseExtended,"iso2022_jp_ext",["iso2022jp_ext","iso_2022_jp_ext"]⟩]

def koreanNamings : List Naming := [
  ⟨.scheme .korean,"euc_kr",["euckr","korean","ksc5601","ks_c_5601","ks_c_5601_1987","ksx1001",
    "ks_x_1001","x_mac_korean"]⟩,
  ⟨.scheme .koreanWindows,"cp949",["949","ms949","uhc"]⟩,
  ⟨.scheme .koreanCombined,"johab",["cp1361","ms1361"]⟩,
  ⟨.designating .korean,"iso2022_kr",["csiso2022kr","iso2022kr","iso_2022_kr"]⟩]

def chineseNamings : List Naming := [
  ⟨.scheme .simplified,"gb2312",["chinese","csiso58gb231280","euc_cn","euccn","eucgb2312_cn",
    "gb2312_1980","gb2312_80","iso_ir_58","x_mac_simp_chinese"]⟩,
  ⟨.scheme .simplifiedExtended,"gbk",["936","cp936","ms936"]⟩,
  ⟨.scheme .simplifiedUniversal,"gb18030",["gb18030_2000"]⟩,
  ⟨.marked,"hz",["hzgb","hz_gb","hz_gb_2312"]⟩,
  ⟨.scheme .traditional,"big5",["big5_tw","csbig5","x_mac_trad_chinese"]⟩,
  ⟨.scheme .traditionalWindows,"cp950",["950","ms950"]⟩,
  ⟨.scheme .traditionalHongKong,"big5hkscs",["big5_hkscs","hkscs"]⟩]

def unicodeNamings : List Naming := [
  ⟨.shifted,"utf_7",["u7","utf7","unicode_1_1_utf_7"]⟩,
  ⟨.unicode (.utf8 false),"utf_8",["u8","utf","utf8","utf8_ucs2","utf8_ucs4","cp65001"]⟩,
  ⟨.unicode (.utf8 true),"utf_8_sig",[]⟩,
  ⟨.unicode (.utf16 none),"utf_16",["u16","utf16"]⟩,
  ⟨.unicode (.utf16 (some .little)),"utf_16_le",["unicodelittleunmarked","utf_16le"]⟩,
  ⟨.unicode (.utf16 (some .big)),"utf_16_be",["unicodebigunmarked","utf_16be"]⟩,
  ⟨.unicode (.utf32 none),"utf_32",["u32","utf32"]⟩,
  ⟨.unicode (.utf32 (some .little)),"utf_32_le",["utf_32le"]⟩,
  ⟨.unicode (.utf32 (some .big)),"utf_32_be",["utf_32be"]⟩,
  ⟨.literal,"unicode_escape",[]⟩,
  ⟨.codes,"raw_unicode_escape",[]⟩,
  ⟨.punycode,"punycode",[]⟩]

def pretenderNamings : List Naming := [
  ⟨.pretender .bytes,"base64_codec",["base64","base_64"]⟩,
  ⟨.pretender .bytes,"bz2_codec",["bz2"]⟩,
  ⟨.pretender .bytes,"hex_codec",["hex"]⟩,
  ⟨.pretender .bytes,"quopri_codec",["quopri","quoted_printable","quotedprintable"]⟩,
  ⟨.pretender .bytes,"uu_codec",["uu"]⟩,
  ⟨.pretender .bytes,"zlib_codec",["zip","zlib"]⟩,
  ⟨.pretender .letters,"rot_13",["rot13"]⟩,
  ⟨.pretender .nothing,"undefined",[]⟩,
  ⟨.pretender .hostNames,"idna",[]⟩]

def namings : List Naming :=
  pageNamings ++ japaneseNamings ++ koreanNamings ++ chineseNamings ++ unicodeNamings ++
    pretenderNamings

/-- A name in the form in which names are compared: in small letters, with one underscore for each
run of other characters between its letters, digits and points. `parted` says that such a run came
before and `begun` that a character did. -/
def plainName (parted begun : Bool) : List Char → List Char
  | [] => []
  | c :: rest =>
    if c.isAlphanum || c == '.' then
      if parted && begun then '_' :: c.toLower :: plainName false true rest
      else c.toLower :: plainName false true rest
    else plainName true begun rest

/-- Whether a charset is called by a plain name, in which points can stand for underscores. -/
def Naming.answers (n : Naming) (plain : List Char) : Bool :=
  let name := String.ofList plain
  let joined := String.ofList (plain.map fun c => if c = '.' then '_' else c)
  n.aliases.contains name || n.aliases.contains joined || n.name == name

def named? (name : List Char) : Option Charset :=
  (namings.find? (·.answers (plainName false false name))).map (·.charset)

end ScopedAnalytics.Charset
