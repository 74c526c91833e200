import DistrictAtlas.Text.EastAsian.Big5
import DistrictAtlas.Text.EastAsian.Switching

/-!
# Character sets of East Asia

Character sets that take two bytes or more for most characters, the names they go by, and the reading of
bytes in each.
-/

namespace DistrictAtlas

/-- A character set of East Asia. -/
inductive EastAsian where
  /-- The standard set of simplified Chinese. -/
  | gb2312
  /-- The extended set of Chinese. -/
  | gbk
  /-- The whole set of Chinese. -/
  | gb18030
  /-- The standard set of simplified Chinese in seven bits. -/
  | hz
  /-- Big5. -/
  | big5
  /-- Big5 of the vendor. -/
  | cp950
  /-- Big5 with the supplementary set of Hong Kong. -/
  | big5hkscs
  /-- Japanese in bytes with their high bits. -/
  | eucJp
  /-- Japanese with folded rows. -/
  | shiftJis
  /-- Japanese with folded rows, of the vendor. -/
  | cp932
  /-- Extended Japanese in bytes with their high bits. -/
  | eucExtended (edition : EastAsian.Japanese.Edition)
  /-- Extended Japanese with folded rows. -/
  | shiftExtended (edition : EastAsian.Japanese.Edition)
  /-- The standard set of Korean. -/
  | eucKr
  /-- The unified set of Korean. -/
  | cp949
  /-- The combining set of Korean. -/
  | johab
  /-- Several sets to switch between. -/
  | switching (way : EastAsian.Switching)
deriving DecidableEq, Repr

namespace EastAsian

/-- The ways to switch between sets, each with its own name and the other names it goes by. -/
def switchings : List (Switching × String × List String) :=
  [(⟨[.japanese, .japaneseFirst, .latinJapanese], false, false, true⟩,
      "iso2022_jp", ["csiso2022jp", "iso2022jp", "iso_2022_jp"]),
   (⟨[.japanese, .japaneseFirst, .latinJapanese, .supplement], false, false, true⟩,
      "iso2022_jp_1", ["iso2022jp_1", "iso_2022_jp_1"]),
   (⟨[.japanese, .japaneseFirst, .latinJapanese, .supplement, .korean, .chinese, .latin, .greek],
        false, true, true⟩,
      "iso2022_jp_2", ["iso2022jp_2", "iso_2022_jp_2"]),
   (⟨[.japanese, .firstPlane .earlier, .secondPlane], false, false, true⟩,
      "iso2022_jp_3", ["iso2022jp_3", "iso_2022_jp_3"]),
   (⟨[.japanese, .firstPlane .later, .secondPlane], false, false, true⟩,
      "iso2022_jp_2004", ["iso2022jp_2004", "iso_2022_jp_2004"]),
   (⟨[.japanese, .japaneseFirst, .latinJapanese, .supplement, .kana], false, false, true⟩,
      "iso2022_jp_ext", ["iso2022jp_ext", "iso_2022_jp_ext"]),
   (⟨[.korean], true, false, false⟩,
      "iso2022_kr", ["csiso2022kr", "iso2022kr", "iso_2022_kr"])]

/-- The character sets, each with its own name and the other names it goes by. -/
def named : List (EastAsian × String × List String) :=
  [(gb2312, "gb2312", ["chinese", "csiso58gb231280", "euc_cn", "euccn", "eucgb2312_cn",
      "gb2312_1980", "gb2312_80", "iso_ir_58", "x_mac_simp_chinese"]),
   (gbk, "gbk", ["936", "cp936", "ms936"]),
   (gb18030, "gb18030", ["gb18030_2000"]),
   (hz, "hz", ["hzgb", "hz_gb", "hz_gb_2312"]),
   (big5, "big5", ["big5_tw", "csbig5", "x_mac_trad_chinese"]),
   (cp950, "cp950", ["950", "ms950"]),
   (big5hkscs, "big5hkscs", ["big5_hkscs", "hkscs"]),
   (eucJp, "euc_jp", ["eucjp", "ujis", "u_jis"]),
   (shiftJis, "shift_jis", ["csshiftjis", "shiftjis", "sjis", "s_jis", "x_mac_japanese"]),
   (cp932, "cp932", ["932", "ms932", "mskanji", "ms_kanji"]),
   (eucExtended .earlier, "euc_jisx0213", ["eucjisx0213"]),
   (eucExtended .later, "euc_jis_2004", ["jisx0213", "eucjis2004", "euc_jis2004"]),
   (shiftExtended .earlier, "shift_jisx0213", ["shiftjisx0213", "sjisx0213", "s_jisx0213"]),
   (shiftExtended .later, "shift_jis_2004", ["shiftjis2004", "sjis_2004", "s_jis_2004"]),
   (eucKr, "euc_kr", ["euckr", "korean", "ksc5601", "ks_c_5601", "ks_c_5601_1987", "ksx1001",
      "ks_x_1001", "x_mac_korean"]),
   (cp949, "cp949", ["949", "ms949", "uhc"]),
   (johab, "johab", ["cp1361", "ms1361"])] ++
    switchings.map fun (way, names) => (switching way, names)

/-- The text that the bytes write. -/
def text (bytes : Bytes) : EastAsian → String
  | gb2312 => read (asciiOrPair Guobiao.plain?) bytes
  | gbk => read (asciiOrPair (Guobiao.pair? Guobiao.extendedAt?)) bytes
  | gb18030 => read Guobiao.wholeLead bytes
  | hz => String.ofList (decode Guobiao.tildeLead false [] (bytes.map UInt8.toNat))
  | big5 => read (asciiOrPair (Big5.pair? Big5.standard)) bytes
  | cp950 => read (asciiOrPair (Big5.pair? Big5.vendor)) bytes
  | big5hkscs => read Big5.hongKongLead bytes
  | eucJp => read Japanese.highLead bytes
  | shiftJis => read Japanese.foldedLead bytes
  | cp932 => read Japanese.vendorLead bytes
  | eucExtended edition => read (Japanese.extendedHighLead edition) bytes
  | shiftExtended edition => read (Japanese.extendedFoldedLead edition) bytes
  | eucKr => read Korean.standardLead bytes
  | cp949 => read (asciiOrPair Korean.unified?) bytes
  | johab => read (asciiOrPair Korean.combiningPair?) bytes
  | switching way => way.read bytes

end EastAsian

end DistrictAtlas
