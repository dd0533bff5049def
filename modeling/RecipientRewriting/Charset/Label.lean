import RecipientRewriting.Charset.EastAsian
import RecipientRewriting.Charset.SingleOctet
import RecipientRewriting.Charset.Unicode

/-!
# Charsets by label

A message names a charset by one of its labels, in whatever case.
-/

namespace RecipientRewriting

inductive Charset
  /-- Unicode in units of 8 bits. -/
  | utf8
  /-- Unicode in units of 16 bits. -/
  | utf16 (bigEndian : Bool)
  /-- Unicode in 7-bit octets. -/
  | utf7
  /-- The Chinese character set. -/
  | gb18030
  /-- The traditional Chinese character set. -/
  | big5
  /-- The Korean character set. -/
  | korean
  /-- The Japanese character sets of Shift JIS. -/
  | shiftJis
  /-- The packed Japanese character sets. -/
  | eucJp
  /-- The Japanese character sets for mail. -/
  | jisForMail
  /-- Octets from 128 on are code points for private use. -/
  | userDefined
  /-- Octets are a character each, by a table of the upper half. -/
  | single (table : String)
  deriving DecidableEq, Repr

namespace Charset

/-- The charsets of more than one octet, each under its labels in lower case. -/
def labels : List (List String × Charset) :=
  [(["unicode-1-1-utf-8", "unicode11utf8", "unicode20utf8", "utf-8", "utf8",
      "x-unicode20utf8"], .utf8),
    (["csunicode", "iso-10646-ucs-2", "ucs-2", "unicode", "unicodefeff", "utf-16",
      "utf-16le"], .utf16 false),
    (["unicodefffe", "utf-16be"], .utf16 true),
    (["csunicode11utf7", "unicode-1-1-utf-7", "unicode-2-0-utf-7", "utf-7",
      "x-unicode-2-0-utf-7"], .utf7),
    (["chinese", "csgb2312", "csiso58gb231280", "euc_cn", "gb18030", "gb2312", "gb_2312",
      "gb_2312-80", "gbk", "iso-ir-58", "ms936", "x-gbk"], .gb18030),
    (["big5", "big5-hkscs", "cn-big5", "csbig5", "ms950", "ms950_hkscs", "x-windows-950",
      "x-x-big5"], .big5),
    (["cseuckr", "csksc56011987", "euc-kr", "euc_kr", "iso-ir-149", "korean",
      "ks_c_5601-1987", "ks_c_5601-1989", "ksc5601", "ksc_5601", "ms949", "windows-949",
      "x-windows-949"], .korean),
    (["csshiftjis", "ms932", "ms_kanji", "shift-jis", "shift_jis", "sjis", "windows-31j",
      "x-sjis"], .shiftJis),
    (["cseucpkdfmtjapanese", "euc-jp", "euc_jp", "x-euc-jp"], .eucJp),
    (["csiso2022jp", "iso-2022-jp", "iso2022jp"], .jisForMail),
    (["x-user-defined"], .userDefined)]

/-- White space of ASCII, which may surround a label. -/
def isLabelSpace (character : Char) : Bool :=
  character ∈ [' ', '\t', '\n', '\x0c', '\r']

def plainLabel (label : List Char) : String :=
  let front := label.dropWhile isLabelSpace
  String.ofList ((front.reverse.dropWhile isLabelSpace).reverse.map Char.toLower)

def ofLabel? (label : List Char) : Option Charset :=
  let label := plainLabel label
  match labels.find? (·.1.contains label) with
  | some (_, charset) => some charset
  | none => (singleOctet.find? (·.1.contains label)).map fun entry => single entry.2

/-- Decodes octets that are a character each. -/
def decodeSingle (table : String) (octets : List UInt8) : List Char :=
  let upper := (codesOfRow table).toArray
  octets.map fun octet =>
    if octet < 0x80 then Char.ofNat octet.toNat
    else (characterAt? upper (octet.toNat - 0x80)).getD replacement

/-- Decodes octets for private use. -/
def decodeUserDefined (octets : List UInt8) : List Char :=
  octets.map fun octet =>
    Char.ofNat (if octet < 0x80 then octet.toNat else 0xF700 + octet.toNat)

def decode : Charset → List UInt8 → List Char
  | utf8, octets => (decodeUtf8 octets).1
  | utf16 bigEndian, octets => decodeUtf16 bigEndian octets
  | utf7, octets => decodeWith readUtf7 octets
  | gb18030, octets => decodeWith readGb18030 octets
  | big5, octets => decodeWith readBig5 octets
  | korean, octets => decodeWith readKorean octets
  | shiftJis, octets => decodeWith readShiftJis octets
  | eucJp, octets => decodeWith readEucJp octets
  | jisForMail, octets => decodeFrom readJisForMail ⟨.ascii, false⟩ octets
  | userDefined, octets => decodeUserDefined octets
  | single table, octets => decodeSingle table octets

end Charset

end RecipientRewriting
