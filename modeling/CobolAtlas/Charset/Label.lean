import CobolAtlas.Text

/-!
# Labels of charsets

The charsets that a label can name. A label is looked up without the blanks around it and in any
case of its letters; several labels name one charset.
-/

namespace CobolAtlas

inductive Charset where
  | big5
  | eucJp
  | eucKr
  | gb18030
  | gbk
  | ibm866
  | iso2022Jp
  | iso8859x10
  | iso8859x13
  | iso8859x14
  | iso8859x15
  | iso8859x16
  | iso8859x2
  | iso8859x3
  | iso8859x4
  | iso8859x5
  | iso8859x6
  | iso8859x7
  | iso8859x8
  | iso8859x8i
  | koi8R
  | koi8U
  | macintosh
  | replacement
  | shiftJis
  | utf16be
  | utf16le
  | utf8
  | windows1250
  | windows1251
  | windows1252
  | windows1253
  | windows1254
  | windows1255
  | windows1256
  | windows1257
  | windows1258
  | windows874
  | macCyrillic
  | userDefined
  deriving DecidableEq, Repr

namespace Charset

def all : List Charset :=
  [big5, eucJp, eucKr, gb18030, gbk, ibm866, iso2022Jp, iso8859x10, iso8859x13, iso8859x14,
    iso8859x15, iso8859x16, iso8859x2, iso8859x3, iso8859x4, iso8859x5, iso8859x6, iso8859x7,
    iso8859x8, iso8859x8i, koi8R, koi8U, macintosh, replacement, shiftJis,
    utf16be, utf16le, utf8, windows1250, windows1251, windows1252, windows1253, windows1254,
    windows1255, windows1256, windows1257, windows1258, windows874, macCyrillic, userDefined]

def name : Charset → String
  | big5 => "Big5"
  | eucJp => "EUC-JP"
  | eucKr => "EUC-KR"
  | gb18030 => "gb18030"
  | gbk => "GBK"
  | ibm866 => "IBM866"
  | iso2022Jp => "ISO-2022-JP"
  | iso8859x10 => "ISO-8859-10"
  | iso8859x13 => "ISO-8859-13"
  | iso8859x14 => "ISO-8859-14"
  | iso8859x15 => "ISO-8859-15"
  | iso8859x16 => "ISO-8859-16"
  | iso8859x2 => "ISO-8859-2"
  | iso8859x3 => "ISO-8859-3"
  | iso8859x4 => "ISO-8859-4"
  | iso8859x5 => "ISO-8859-5"
  | iso8859x6 => "ISO-8859-6"
  | iso8859x7 => "ISO-8859-7"
  | iso8859x8 => "ISO-8859-8"
  | iso8859x8i => "ISO-8859-8-I"
  | koi8R => "KOI8-R"
  | koi8U => "KOI8-U"
  | macintosh => "macintosh"
  | replacement => "replacement"
  | shiftJis => "Shift_JIS"
  | utf16be => "UTF-16BE"
  | utf16le => "UTF-16LE"
  | utf8 => "UTF-8"
  | windows1250 => "windows-1250"
  | windows1251 => "windows-1251"
  | windows1252 => "windows-1252"
  | windows1253 => "windows-1253"
  | windows1254 => "windows-1254"
  | windows1255 => "windows-1255"
  | windows1256 => "windows-1256"
  | windows1257 => "windows-1257"
  | windows1258 => "windows-1258"
  | windows874 => "windows-874"
  | macCyrillic => "x-mac-cyrillic"
  | userDefined => "x-user-defined"

def labels : Charset → List String
  | big5 => ["big5", "csbig5", "cn-big5", "x-x-big5", "big5-hkscs"]
  | eucJp => ["euc-jp", "x-euc-jp", "cseucpkdfmtjapanese"]
  | eucKr =>
    ["korean", "euc-kr", "ksc5601", "cseuckr", "ksc_5601", "iso-ir-149", "windows-949",
     "csksc56011987", "ks_c_5601-1987", "ks_c_5601-1989"]
  | gb18030 => ["gb18030"]
  | gbk =>
    ["gbk", "x-gbk", "gb2312", "gb_2312", "chinese", "csgb2312", "iso-ir-58", "gb_2312-80",
     "csiso58gb231280"]
  | ibm866 => ["866", "cp866", "ibm866", "csibm866"]
  | iso2022Jp => ["iso-2022-jp", "csiso2022jp"]
  | iso8859x10 =>
    ["l6", "latin6", "iso885910", "iso8859-10", "iso-ir-157", "iso-8859-10", "csisolatin6"]
  | iso8859x13 => ["iso885913", "iso8859-13", "iso-8859-13"]
  | iso8859x14 => ["iso885914", "iso8859-14", "iso-8859-14"]
  | iso8859x15 => ["l9", "iso885915", "iso8859-15", "iso-8859-15", "iso_8859-15", "csisolatin9"]
  | iso8859x16 => ["iso-8859-16"]
  | iso8859x2 =>
    ["l2", "latin2", "iso88592", "iso8859-2", "iso-ir-101", "iso-8859-2", "iso_8859-2",
     "csisolatin2", "iso_8859-2:1987"]
  | iso8859x3 =>
    ["l3", "latin3", "iso88593", "iso8859-3", "iso-8859-3", "iso_8859-3", "iso-ir-109",
     "csisolatin3", "iso_8859-3:1988"]
  | iso8859x4 =>
    ["l4", "latin4", "iso88594", "iso8859-4", "iso-ir-110", "iso-8859-4", "iso_8859-4",
     "csisolatin4", "iso_8859-4:1988"]
  | iso8859x5 =>
    ["iso88595", "cyrillic", "iso8859-5", "iso-ir-144", "iso-8859-5", "iso_8859-5",
     "iso_8859-5:1988", "csisolatincyrillic"]
  | iso8859x6 =>
    ["arabic", "ecma-114", "iso88596", "asmo-708", "iso8859-6", "iso-8859-6", "iso_8859-6",
     "iso-ir-127", "csiso88596e", "csiso88596i", "iso-8859-6-e", "iso-8859-6-i",
     "iso_8859-6:1987", "csisolatinarabic"]
  | iso8859x7 =>
    ["greek", "greek8", "iso88597", "ecma-118", "elot_928", "iso8859-7", "iso-ir-126",
     "iso-8859-7", "iso_8859-7", "sun_eu_greek", "iso_8859-7:1987", "csisolatingreek"]
  | iso8859x8 =>
    ["visual", "hebrew", "iso88598", "iso8859-8", "iso-8859-8", "iso_8859-8", "iso-ir-138",
     "csiso88598e", "iso-8859-8-e", "iso_8859-8:1988", "csisolatinhebrew"]
  | iso8859x8i => ["logical", "csiso88598i", "iso-8859-8-i"]
  | koi8R => ["koi", "koi8", "koi8-r", "koi8_r", "cskoi8r"]
  | koi8U => ["koi8-u", "koi8-ru"]
  | macintosh => ["mac", "macintosh", "csmacintosh", "x-mac-roman"]
  | replacement =>
    ["hz-gb-2312", "iso-2022-cn", "iso-2022-kr", "csiso2022kr", "replacement", "iso-2022-cn-ext"]
  | shiftJis =>
    ["sjis", "ms932", "x-sjis", "ms_kanji", "shift-jis", "shift_jis", "csshiftjis",
     "windows-31j"]
  | utf16be => ["utf-16be", "unicodefffe"]
  | utf16le =>
    ["ucs-2", "utf-16", "unicode", "utf-16le", "csunicode", "unicodefeff", "iso-10646-ucs-2"]
  | utf8 =>
    ["utf8", "utf-8", "unicode20utf8", "unicode11utf8", "x-unicode20utf8", "unicode-1-1-utf-8"]
  | windows1250 => ["cp1250", "x-cp1250", "windows-1250"]
  | windows1251 => ["cp1251", "x-cp1251", "windows-1251"]
  | windows1252 =>
    ["l1", "cp819", "ascii", "latin1", "cp1252", "ibm819", "iso88591", "x-cp1252", "us-ascii",
     "iso8859-1", "iso-ir-100", "iso-8859-1", "iso_8859-1", "csisolatin1", "windows-1252",
     "ansi_x3.4-1968", "iso_8859-1:1987"]
  | windows1253 => ["cp1253", "x-cp1253", "windows-1253"]
  | windows1254 =>
    ["l5", "cp1254", "latin5", "x-cp1254", "iso88599", "iso8859-9", "iso-ir-148", "iso-8859-9",
     "iso_8859-9", "csisolatin5", "windows-1254", "iso_8859-9:1989"]
  | windows1255 => ["cp1255", "x-cp1255", "windows-1255"]
  | windows1256 => ["cp1256", "x-cp1256", "windows-1256"]
  | windows1257 => ["cp1257", "x-cp1257", "windows-1257"]
  | windows1258 => ["cp1258", "x-cp1258", "windows-1258"]
  | windows874 => ["tis-620", "dos-874", "iso885911", "iso8859-11", "iso-8859-11", "windows-874"]
  | macCyrillic => ["x-mac-cyrillic", "x-mac-ukrainian"]
  | userDefined => ["x-user-defined"]

/-- The blanks that may stand around a label. -/
def isLabelBlank (c : Char) : Bool :=
  c = '\t' || c = '\n' || c = '\x0c' || c = '\r' || c = ' '

/-- A label as it is looked up. -/
def normalLabel (label : String) : String :=
  let inner := Text.dropEndWhile isLabelBlank (Text.dropStartWhile isLabelBlank label)
  String.ofList (inner.toList.map Char.toLower)

def ofLabel? (label : String) : Option Charset :=
  all.find? fun charset => charset.labels.contains (normalLabel label)

end Charset

end CobolAtlas
