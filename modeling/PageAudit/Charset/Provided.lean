import PageAudit.Charset.Utf8

/-!
# Codecs that are provided

Some codecs work by tables of many thousand characters, or by a language of escapes. These are not
spelled out here: what they make of bytes is a parameter (`Tables`), and all that is taken for
granted of it is what they have in common. Most of them read a byte below `80` as ASCII wherever it
does not belong to the character before it. Some have bytes of ASCII that are more than a character,
as they shift to another set of characters or start an escape.
-/

namespace PageAudit.Charset

/-- A codec that is not spelled out here. -/
inductive Provided where
  | big5 | big5Hkscs | cp932 | cp949 | cp950 | eucJis2004 | eucJisx0213 | eucJp | eucKr | gb18030
  | gb2312 | gbk | johab | shiftJis | shiftJis2004 | shiftJisx0213 | hz | iso2022Jp | iso2022Jp1
  | iso2022Jp2 | iso2022Jp2004 | iso2022Jp3 | iso2022JpExt | iso2022Kr | utf7 | unicodeEscape
  | rawUnicodeEscape
  deriving DecidableEq, Repr

namespace Provided

/-- The provided codecs with their names, as those of a code page. -/
def named : List (List String × Provided) := [
  (["big5", "big5_tw", "csbig5", "x_mac_trad_chinese"], .big5),
  (["big5hkscs", "big5_hkscs", "hkscs"], .big5Hkscs),
  (["cp932", "932", "ms932", "ms_kanji", "mskanji"], .cp932),
  (["cp949", "949", "ms949", "uhc"], .cp949),
  (["cp950", "950", "ms950"], .cp950),
  (["euc_jis_2004", "euc_jis2004", "eucjis2004", "jisx0213"], .eucJis2004),
  (["euc_jisx0213", "eucjisx0213"], .eucJisx0213),
  (["euc_jp", "eucjp", "u_jis", "ujis"], .eucJp),
  (["euc_kr", "euckr", "korean", "ks_c_5601", "ks_c_5601_1987", "ks_x_1001", "ksc5601", "ksx1001",
    "x_mac_korean"], .eucKr),
  (["gb18030", "gb18030_2000"], .gb18030),
  (["gb2312", "chinese", "csiso58gb231280", "euc_cn", "euccn", "eucgb2312_cn", "gb2312_1980",
    "gb2312_80", "iso_ir_58", "x_mac_simp_chinese"], .gb2312),
  (["gbk", "936", "cp936", "ms936"], .gbk),
  (["johab", "cp1361", "ms1361"], .johab),
  (["shift_jis", "csshiftjis", "s_jis", "shiftjis", "sjis", "x_mac_japanese"], .shiftJis),
  (["shift_jis_2004", "s_jis_2004", "shiftjis2004", "sjis_2004"], .shiftJis2004),
  (["shift_jisx0213", "s_jisx0213", "shiftjisx0213", "sjisx0213"], .shiftJisx0213),
  (["hz", "hz_gb", "hz_gb_2312", "hzgb"], .hz),
  (["iso2022_jp", "csiso2022jp", "iso2022jp", "iso_2022_jp"], .iso2022Jp),
  (["iso2022_jp_1", "iso2022jp_1", "iso_2022_jp_1"], .iso2022Jp1),
  (["iso2022_jp_2", "iso2022jp_2", "iso_2022_jp_2"], .iso2022Jp2),
  (["iso2022_jp_2004", "iso2022jp_2004", "iso_2022_jp_2004"], .iso2022Jp2004),
  (["iso2022_jp_3", "iso2022jp_3", "iso_2022_jp_3"], .iso2022Jp3),
  (["iso2022_jp_ext", "iso2022jp_ext", "iso_2022_jp_ext"], .iso2022JpExt),
  (["iso2022_kr", "csiso2022kr", "iso2022kr", "iso_2022_kr"], .iso2022Kr),
  (["utf_7", "u7", "unicode_1_1_utf_7", "utf7"], .utf7),
  (["unicode_escape"], .unicodeEscape),
  (["raw_unicode_escape"], .rawUnicodeEscape)
]

/-- The bytes below `80` by which a codec shifts to another set of characters, starts an escape or
means a character of its own. -/
def shifts : Provided → List UInt8
  | hz => [0x7E]
  | iso2022Jp | iso2022Jp1 | iso2022Jp2 | iso2022Jp2004 | iso2022Jp3 | iso2022JpExt => [0x1B]
  | iso2022Kr => [0x0E, 0x0F, 0x1B]
  | shiftJis2004 | shiftJisx0213 => [0x5C, 0x7E]
  | utf7 => [0x2B]
  | unicodeEscape | rawUnicodeEscape => [0x5C]
  | _ => []

/-- The byte is a character of ASCII and no more, if it is not taken up by what stands before it. -/
def isPlain (p : Provided) (b : UInt8) : Bool :=
  b < 0x80 && !p.shifts.contains b

end Provided

/-- What the provided codecs make of bytes. Whatever they cannot decode they replace, so they make
something of any bytes. -/
structure Tables where
  decode : Provided → List UInt8 → List Char
  decode_nil : ∀ p, decode p [] = []
  /-- A plain byte at the start is read by itself. -/
  decode_cons : ∀ p b bs, p.isPlain b → decode p (b :: bs) = Char.ofNat b.toNat :: decode p bs

/-- Tables that have the plain bytes and nothing else. -/
def Tables.bare : Tables where
  decode p bs := bs.map fun b => if p.isPlain b then Char.ofNat b.toNat else replacement
  decode_nil _ := rfl
  decode_cons p b bs h := by rw [List.map_cons, if_pos h]

end PageAudit.Charset
