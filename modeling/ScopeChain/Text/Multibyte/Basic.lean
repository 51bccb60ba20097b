/-
Sets of characters of several bytes, with their names.
-/
import ScopeChain.Text.Multibyte.Iso2022

namespace ScopeChain

structure Multibyte where
  name : String
  /-- Other names of the set. -/
  aliases : List String
  /-- The characters that bytes spell in the set. -/
  decode : List UInt8 → Except Refused (List Char)

namespace Multibyte

def chinese : List Multibyte := [
  ⟨"gb2312", ["chinese", "csiso58gb231280", "euc_cn", "euccn", "eucgb2312_cn", "gb2312_1980",
    "gb2312_80", "iso_ir_58", "x_mac_simp_chinese"], decodeGb2312⟩,
  ⟨"gbk", ["936", "cp936", "ms936"], decodeGbk⟩,
  ⟨"gb18030", ["gb18030_2000"], decodeGb18030⟩,
  ⟨"hz", ["hz_gb", "hz_gb_2312", "hzgb"], decodeHz⟩,
  ⟨"big5", ["big5_tw", "csbig5", "x_mac_trad_chinese"], decodeBig5⟩,
  ⟨"big5hkscs", ["big5_hkscs", "hkscs"], decodeHkscs⟩,
  ⟨"cp950", ["950", "ms950"], decodeCp950⟩]

def korean : List Multibyte := [
  ⟨"euc_kr", ["euckr", "korean", "ks_c_5601", "ks_c_5601_1987", "ks_x_1001", "ksc5601", "ksx1001",
    "x_mac_korean"], decodeEucKr⟩,
  ⟨"cp949", ["949", "ms949", "uhc"], decodeCp949⟩,
  ⟨"johab", ["cp1361", "ms1361"], decodeJohab⟩,
  ⟨"iso2022_kr", ["csiso2022kr", "iso2022kr", "iso_2022_kr"], decodeIso2022Kr⟩]

def japanese : List Multibyte := [
  ⟨"shift_jis", ["csshiftjis", "s_jis", "shiftjis", "sjis", "x_mac_japanese"], decodeShiftJis⟩,
  ⟨"shift_jis_2004", ["s_jis_2004", "shiftjis2004", "sjis_2004"], decodeShiftJis0213 .second⟩,
  ⟨"shift_jisx0213", ["s_jisx0213", "shiftjisx0213", "sjisx0213"], decodeShiftJis0213 .first⟩,
  ⟨"cp932", ["932", "ms932", "ms_kanji", "mskanji"], decodeCp932⟩,
  ⟨"euc_jp", ["eucjp", "u_jis", "ujis"], decodeEucJp⟩,
  ⟨"euc_jis_2004", ["euc_jis2004", "eucjis2004", "jisx0213"], decodeEucJis0213 .second⟩,
  ⟨"euc_jisx0213", ["eucjisx0213"], decodeEucJis0213 .first⟩,
  ⟨"iso2022_jp", ["csiso2022jp", "iso2022jp", "iso_2022_jp"], decodeIso2022Jp⟩,
  ⟨"iso2022_jp_1", ["iso2022jp_1", "iso_2022_jp_1"], decodeIso2022Jp1⟩,
  ⟨"iso2022_jp_2", ["iso2022jp_2", "iso_2022_jp_2"], decodeIso2022Jp2⟩,
  ⟨"iso2022_jp_2004", ["iso2022jp_2004", "iso_2022_jp_2004"], decodeIso2022Jp0213 .second⟩,
  ⟨"iso2022_jp_3", ["iso2022jp_3", "iso_2022_jp_3"], decodeIso2022Jp0213 .first⟩,
  ⟨"iso2022_jp_ext", ["iso2022jp_ext", "iso_2022_jp_ext"], decodeIso2022JpExt⟩]

end Multibyte
end ScopeChain
