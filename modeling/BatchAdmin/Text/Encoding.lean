/-
Encodings: which octets stand for which characters.

An encoding is asked for by one of its labels, in any case and with
blanks around it; old labels of small sets mean the larger set that
replaced them. Every encoding makes a text of every sequence of octets,
with replacement characters where it has none. A byte order mark in
front outweighs what was asked for, and is no part of the text.
-/
import BatchAdmin.Text.Encoding.EastAsian
import BatchAdmin.Text.Encoding.Iso2022Jp
import BatchAdmin.Text.Encoding.OneOctet
import BatchAdmin.Text.Encoding.Utf16
import BatchAdmin.Text.Blank
import BatchAdmin.Text.Cut

namespace BatchAdmin.Text

/-- An encoding. -/
inductive Encoding where
  | utf8
  | utf16 (bigEndian : Bool)
  /-- ASCII, and a table for the octets beyond it. -/
  | oneOctet (upper : CharTable)
  /-- ASCII, and characters of private use for the octets beyond it. -/
  | userDefined
  | gb18030
  | big5
  | eucJp
  | iso2022Jp
  | shiftJis
  | eucKr
  /-- Encodings that nothing is read in, since they could hide marks. -/
  | refused
  deriving DecidableEq, Repr

namespace Encoding

-- =================================================================== labels

/-- The encodings with their labels. -/
def labels : List (Encoding × List String) := [
  (.utf8, ["unicode-1-1-utf-8", "unicode11utf8", "unicode20utf8", "utf-8",
    "utf8", "x-unicode20utf8"]),
  (.utf16 false, ["csunicode", "iso-10646-ucs-2", "ucs-2", "unicode",
    "unicodefeff", "utf-16", "utf-16le"]),
  (.utf16 true, ["unicodefffe", "utf-16be"]),
  (.oneOctet windows1252, ["ansi_x3.4-1968", "ascii", "cp1252", "cp819",
    "csisolatin1", "ibm819", "iso-8859-1", "iso-ir-100", "iso8859-1",
    "iso88591", "iso_8859-1", "iso_8859-1:1987", "l1", "latin1",
    "us-ascii", "windows-1252", "x-cp1252"]),
  (.oneOctet ibm866, ["866", "cp866", "csibm866", "ibm866"]),
  (.oneOctet iso8859Part2, ["csisolatin2", "iso-8859-2", "iso-ir-101",
    "iso8859-2", "iso88592", "iso_8859-2", "iso_8859-2:1987", "l2",
    "latin2"]),
  (.oneOctet iso8859Part3, ["csisolatin3", "iso-8859-3", "iso-ir-109",
    "iso8859-3", "iso88593", "iso_8859-3", "iso_8859-3:1988", "l3",
    "latin3"]),
  (.oneOctet iso8859Part4, ["csisolatin4", "iso-8859-4", "iso-ir-110",
    "iso8859-4", "iso88594", "iso_8859-4", "iso_8859-4:1988", "l4",
    "latin4"]),
  (.oneOctet iso8859Part5, ["csisolatincyrillic", "cyrillic",
    "iso-8859-5", "iso-ir-144", "iso8859-5", "iso88595", "iso_8859-5",
    "iso_8859-5:1988"]),
  (.oneOctet iso8859Part6, ["arabic", "asmo-708", "csiso88596e",
    "csiso88596i", "csisolatinarabic", "ecma-114", "iso-8859-6",
    "iso-8859-6-e", "iso-8859-6-i", "iso-ir-127", "iso8859-6", "iso88596",
    "iso_8859-6", "iso_8859-6:1987"]),
  (.oneOctet iso8859Part7, ["csisolatingreek", "ecma-118", "elot_928",
    "greek", "greek8", "iso-8859-7", "iso-ir-126", "iso8859-7",
    "iso88597", "iso_8859-7", "iso_8859-7:1987", "sun_eu_greek"]),
  (.oneOctet iso8859Part8, ["csiso88598e", "csiso88598i",
    "csisolatinhebrew", "hebrew", "iso-8859-8", "iso-8859-8-e",
    "iso-8859-8-i", "iso-ir-138", "iso8859-8", "iso88598", "iso_8859-8",
    "iso_8859-8:1988", "logical", "visual"]),
  (.oneOctet iso8859Part10, ["csisolatin6", "iso-8859-10", "iso-ir-157",
    "iso8859-10", "iso885910", "l6", "latin6"]),
  (.oneOctet iso8859Part13, ["iso-8859-13", "iso8859-13", "iso885913"]),
  (.oneOctet iso8859Part14, ["iso-8859-14", "iso8859-14", "iso885914"]),
  (.oneOctet iso8859Part15, ["csisolatin9", "iso-8859-15", "iso8859-15",
    "iso885915", "iso_8859-15", "l9"]),
  (.oneOctet iso8859Part16, ["iso-8859-16"]),
  (.oneOctet koi8R, ["cskoi8r", "koi", "koi8", "koi8-r", "koi8_r"]),
  (.oneOctet koi8U, ["koi8-ru", "koi8-u"]),
  (.oneOctet macintosh, ["csmacintosh", "mac", "macintosh",
    "x-mac-roman"]),
  (.oneOctet macCyrillic, ["x-mac-cyrillic", "x-mac-ukrainian"]),
  (.oneOctet windows874, ["dos-874", "iso-8859-11", "iso8859-11",
    "iso885911", "tis-620", "windows-874"]),
  (.oneOctet windows1250, ["cp1250", "windows-1250", "x-cp1250"]),
  (.oneOctet windows1251, ["cp1251", "windows-1251", "x-cp1251"]),
  (.oneOctet windows1253, ["cp1253", "windows-1253", "x-cp1253"]),
  (.oneOctet windows1254, ["cp1254", "csisolatin5", "iso-8859-9",
    "iso-ir-148", "iso8859-9", "iso88599", "iso_8859-9",
    "iso_8859-9:1989", "l5", "latin5", "windows-1254", "x-cp1254"]),
  (.oneOctet windows1255, ["cp1255", "windows-1255", "x-cp1255"]),
  (.oneOctet windows1256, ["cp1256", "windows-1256", "x-cp1256"]),
  (.oneOctet windows1257, ["cp1257", "windows-1257", "x-cp1257"]),
  (.oneOctet windows1258, ["cp1258", "windows-1258", "x-cp1258"]),
  (.gb18030, ["chinese", "csgb2312", "csiso58gb231280", "gb18030",
    "gb2312", "gb_2312", "gb_2312-80", "gbk", "iso-ir-58", "x-gbk"]),
  (.big5, ["big5", "big5-hkscs", "cn-big5", "csbig5", "x-x-big5"]),
  (.eucJp, ["cseucpkdfmtjapanese", "euc-jp", "x-euc-jp"]),
  (.iso2022Jp, ["csiso2022jp", "iso-2022-jp"]),
  (.shiftJis, ["csshiftjis", "ms932", "ms_kanji", "shift-jis",
    "shift_jis", "sjis", "windows-31j", "x-sjis"]),
  (.eucKr, ["cseuckr", "csksc56011987", "euc-kr", "iso-ir-149", "korean",
    "ks_c_5601-1987", "ks_c_5601-1989", "ksc5601", "ksc_5601",
    "windows-949"]),
  (.refused, ["csiso2022kr", "hz-gb-2312", "iso-2022-cn",
    "iso-2022-cn-ext", "iso-2022-kr", "replacement"]),
  (.userDefined, ["x-user-defined"])]

/-- A blank around a label. -/
def isGap (c : Char) : Bool :=
  c == ' ' || c == '\t' || c == '\n' || c == '\x0c' || c == '\r'

/-- The encoding that a label asks for. -/
def ofLabel? (label : List Char) : Option Encoding :=
  let label := String.ofList (lower (trimOf isGap label))
  (labels.find? fun e => e.2.contains label).map (·.1)

-- ================================================================= decoding

/-- A text in ASCII and a table for the octets beyond it. -/
def decodeUpper (upper : Nat → Option Char) (b : Octet) : Char :=
  if isAscii b then Char.ofNat b.toNat
  else (upper (b.toNat - 0x80)).getD replacement

/-- The text of octets in an encoding. -/
def decode (e : Encoding) (bs : List Octet) : List Char :=
  match e with
  | .utf8 => charsLossy bs
  | .utf16 bigEndian => Utf16.decode bigEndian bs
  | .oneOctet upper => bs.map (decodeUpper upper.get?)
  | .userDefined =>
      bs.map (decodeUpper fun n => some (Char.ofNat (0xF780 + n)))
  | .gb18030 => decodeBy gb18030Front bs.length bs
  | .big5 => decodeBy Text.big5.front bs.length bs
  | .eucJp => decodeBy eucJpFront bs.length bs
  | .iso2022Jp => Iso2022Jp.decode bs
  | .shiftJis => decodeBy Text.shiftJis.front bs.length bs
  | .eucKr => decodeBy Text.eucKr.front bs.length bs
  | .refused => if bs.isEmpty then [] else [replacement]

/-- The encoding that a byte order mark names, and what follows it. -/
def marked? : List Octet → Option (Encoding × List Octet)
  | 0xEF :: 0xBB :: 0xBF :: rest => some (.utf8, rest)
  | 0xFF :: 0xFE :: rest => some (.utf16 false, rest)
  | 0xFE :: 0xFF :: rest => some (.utf16 true, rest)
  | _ => none

/-- The text of octets, in an encoding unless a mark in front names
another. -/
def decodeMarked (e : Encoding) (bs : List Octet) : List Char :=
  match marked? bs with
  | some (e, rest) => e.decode rest
  | none => e.decode bs

end Encoding

end BatchAdmin.Text
