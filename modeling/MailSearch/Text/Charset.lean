import MailSearch.Text.Charset.Big5
import MailSearch.Text.Charset.EucJp
import MailSearch.Text.Charset.EucKr
import MailSearch.Text.Charset.Gb18030
import MailSearch.Text.Charset.Iso2022Jp
import MailSearch.Text.Charset.Table
import MailSearch.Text.Charset.Utf16
import MailSearch.Text.Charset.Utf7
import MailSearch.Text.Utf8

/-!
# Character sets

How bytes are read in the character set that a message names.  A label stands
for one of the forms of Unicode, for a single-byte set with a table, or for a
set of East Asia; a label that is not known stands for UTF-8.  In some sets a
text may name another one itself, by a byte order mark in front.
-/

namespace MailSearch
namespace Text

/-- A way to read bytes as text. -/
inductive Charset where
  /-- UTF-8, with the replacement character for broken bytes. -/
  | utf8
  /-- UTF-7. -/
  | utf7
  /-- UTF-16, most significant byte first or last. -/
  | utf16 (bigEndian : Bool)
  /-- UTF-16 in the byte order of its mark, or else least significant byte
  first. -/
  | markedUtf16
  /-- Every byte is its own code point. -/
  | latin1
  /-- ASCII, and a table of the code points from 0x80 on. -/
  | table (upper : List Nat)
  /-- GB 18030, which holds GBK. -/
  | gb18030
  /-- Big5. -/
  | big5
  /-- EUC-JP. -/
  | eucJp
  /-- ISO-2022-JP. -/
  | iso2022Jp
  /-- Shift JIS. -/
  | shiftJis
  /-- EUC-KR. -/
  | eucKr
  /-- The form of Unicode that a mark in front of a text names, or else another
  set. -/
  | marked (charset : Charset)

namespace Charset

/-! ## Decoding -/

/-- Read one byte by the table of the upper half of a character set. -/
def readByte (upper : List Nat) (byte : UInt8) : Char :=
  if byte.toNat < 0x80 then Char.ofNat byte.toNat
  else Char.ofNat ((upper[byte.toNat - 0x80]?).getD 0xFFFD)

/-- A table in which a byte without a code point of its own is its own code
point. -/
def passUndefined (upper : List Nat) : List Nat :=
  upper.mapIdx fun place code => if code = 0xFFFD then 0x80 + place else code

/-- The mark that may stand in front of a text in UTF-8. -/
def utf8Mark : List UInt8 :=
  [0xEF, 0xBB, 0xBF]

/-- What follows the mark of UTF-8 in front of some bytes, if it stands
there. -/
def dropUtf8Mark? (bytes : List UInt8) : Option (List UInt8) :=
  if utf8Mark.isPrefixOf bytes then some (bytes.drop utf8Mark.length) else none

/-- The text of bytes with a mark in front of them. -/
def decodeMarked? (bytes : List UInt8) : Option (List Char) :=
  ((dropUtf8Mark? bytes).map Utf8.decodeLossy).or
    ((byteOrder? bytes).map fun (bigEndian, rest) =>
      decodeWhole16 bigEndian rest)

/-- Read bytes as text. -/
def decode : Charset -> List UInt8 -> List Char
  | .utf8, bytes => Utf8.decodeLossy bytes
  | .utf7, bytes => decodeUtf7 bytes
  | .utf16 bigEndian, bytes => decodeUnits16 (units16 bigEndian bytes)
  | .markedUtf16, bytes =>
      let (bigEndian, rest) := (byteOrder? bytes).getD (false, bytes)
      decodeUnits16 (units16 bigEndian rest)
  | .latin1, bytes => bytes.map fun byte => Char.ofNat byte.toNat
  | .table upper, bytes => bytes.map (readByte upper)
  | .gb18030, bytes => decodeGb18030 bytes
  | .big5, bytes => decodeBig5 bytes
  | .eucJp, bytes => decodeEucJp bytes
  | .iso2022Jp, bytes => decodeIso2022Jp bytes
  | .shiftJis, bytes => decodeShiftJis bytes
  | .eucKr, bytes => decodeKorean bytes
  | .marked charset, bytes => (decodeMarked? bytes).getD (decode charset bytes)

/-! ## Labels -/

/-- The labels of the forms of Unicode. -/
def unicodeLabels : List (Charset × List String) :=
  [(.utf8, ["utf-8", "csutf8"]), (.utf7, ["utf-7", "csutf7"]),
    (.markedUtf16, ["utf-16", "csutf16"]),
      (.utf16 false, ["utf-16le", "csutf16le"]),
    (.utf16 true, ["utf-16be", "csutf16be"])]

/-- The labels of the single-byte sets of ISO 8859. -/
def latinLabels : List (Charset × List String) :=
  [(.latin1,
      ["iso-8859-1", "iso-8859-1:1987", "iso-ir-100", "latin1", "l1",
        "ibm819", "cp819", "csisolatin1"]),
    (.table latin2,
      ["iso-8859-2", "iso-8859-2:1987", "iso-ir-101", "latin2", "l2",
        "csisolatin2"]),
    (.table latin3,
      ["iso-8859-3", "iso-8859-3:1988", "iso-ir-109", "latin3", "l3",
        "csisolatin3"]),
    (.table latin4,
      ["iso-8859-4", "iso-8859-4:1988", "iso-ir-110", "latin4", "l4",
        "csisolatin4"]),
    (.table latinCyrillic,
      ["iso-8859-5", "iso-8859-5:1988", "iso-ir-144", "cyrillic",
        "csisolatincyrillic"]),
    (.table latinArabic,
      ["iso-8859-6", "iso-8859-6:1987", "iso-ir-127", "ecma-114",
        "asmo-708", "arabic", "csisolatinarabic"]),
    (.table latinGreek,
      ["iso-8859-7", "iso-8859-7:1987", "iso-ir-126", "elot-928", "ecma-118",
        "greek", "greek8", "csisolatingreek"]),
    (.table latinHebrew,
      ["iso-8859-8", "iso-8859-8:1988", "iso-ir-138", "hebrew",
        "csisolatinhebrew"]),
    (.table latin5,
      ["iso-8859-9", "iso-8859-9:1989", "iso-ir-148", "latin5", "l5",
        "csisolatin5"]),
    (.table latin6,
      ["iso-8859-10", "iso-8859-10:1992", "iso-ir-157", "l6", "latin6",
        "csisolatin6"]),
    (.table latinThai, ["iso-8859-11"]),
      (.table latin7, ["iso-8859-13", "csiso885913"]),
    (.table latin8,
      ["iso-8859-14", "iso-8859-14:1998", "iso-ir-199", "latin8",
        "iso-celtic", "l8", "csiso885914"]),
    (.table latin9, ["iso-8859-15", "latin-9", "csiso885915"]),
    (.table latin10,
      ["iso-8859-16", "iso-8859-16:2001", "iso-ir-226", "latin10", "l10",
        "csiso885916"])]

/-- The labels of the other single-byte sets. -/
def vendorLabels : List (Charset × List String) :=
  [(.table windows1250, ["windows-1250", "cswindows1250"]),
    (.table windows1251, ["windows-1251", "cswindows1251"]),
    (.table windows1252, ["windows-1252", "cswindows1252"]),
    (.table windows1253, ["windows-1253", "cswindows1253"]),
    (.table windows1254, ["windows-1254", "cswindows1254"]),
    (.table windows1255, ["windows-1255", "cswindows1255"]),
    (.table windows1256, ["windows-1256", "cswindows1256"]),
    (.table windows1257, ["windows-1257", "cswindows1257"]),
    (.table windows1258, ["windows-1258", "cswindows1258"]),
    (.table koi8r, ["koi8-r", "cskoi8r"]),
      (.table koi8u, ["koi8-u", "cskoi8u"]),
    (.table macintosh, ["macintosh", "mac", "csmacintosh"]),
    (.table ibm850, ["ibm850", "cp850", "850", "cspc850multilingual"]),
    (.table tis620, ["tis-620", "cstis620"]),
    (.marked (.table ibm866), ["ibm866", "cp866", "866", "csibm866"]),
    (.marked (.table windows874), ["windows-874", "cswindows874"])]

/-- The labels of the sets of East Asia. -/
def eastAsianLabels : List (Charset × List String) :=
  [(.marked .gb18030,
      ["gb18030", "csgb18030", "gbk", "cp936", "ms936", "windows-936",
        "csgbk", "gb2312", "csgb2312"]),
    (.marked .big5, ["big5", "csbig5"]),
    (.marked .eucJp,
      ["euc-jp", "extended-unix-code-packed-format-for-japanese",
        "cseucpkdfmtjapanese"]),
    (.marked .iso2022Jp, ["iso-2022-jp", "csiso2022jp"]),
    (.marked .shiftJis, ["shift-jis", "ms-kanji", "csshiftjis"]),
    (.marked .eucKr,
      ["euc-kr", "cseuckr", "ks-c-5601-1987", "iso-ir-149", "ks-c-5601-1989",
        "ksc-5601", "korean", "csksc56011987"])]

/-- All labels, in lower case and with hyphens. -/
def labels : List (Charset × List String) :=
  unicodeLabels ++ latinLabels ++ vendorLabels ++ eastAsianLabels

/-- A label with its letters in lower case and with hyphens for low lines. -/
def normalLabel (label : List UInt8) : List UInt8 :=
  label.map fun byte =>
    if 0x41 ≤ byte ∧ byte ≤ 0x5A then byte + 0x20 else if byte = 0x5F then
      0x2D else byte

/-- The character set of a label. -/
def ofLabel (label : List UInt8) : Charset :=
  let found := labels.find? fun (_, names) =>
    names.any fun name => Utf8.bytes name == normalLabel label
  (found.map Prod.fst).getD .utf8

end Charset
end Text
end MailSearch
