import OverlayPatch.Markup.Element
import OverlayPatch.Markup.Header
import OverlayPatch.Text.CodePage
import OverlayPatch.Text.Utf8

/-!
# Encodings of documents

The first bytes of a document tell how wide its characters are, and its declaration may then
name the encoding of what follows. The two must not contradict each other. Without a
declaration a document is in UTF-8, or in UTF-16 if it starts like one.

A document that comes as text has no encoding of its own; whatever it declares then does not
count.
-/

namespace OverlayPatch.Markup

set_option autoImplicit false

inductive Encoding where
  | utf8
  | latin1
  /-- Two bytes for most characters, the high byte first or last. -/
  | utf16 (highFirst : Bool)
  | page (codes : Text.CodePage)
deriving Repr, DecidableEq

/-- Why an encoding that a document declares cannot be used. -/
inductive EncodingProblem where
  | unknown (name : String)
  /-- It encodes something else than text. -/
  | notText (name : String)
  /-- A character may take several bytes. -/
  | multiByte
  /-- It refuses every text. -/
  | refusing (name : String) (reason : String)
  /-- It works with ASCII only, and meets another byte. -/
  | beyondAscii
deriving Repr, DecidableEq

def EncodingProblem.message : EncodingProblem → String
  | unknown name => s!"unknown encoding: {name}"
  | notText name =>
      s!"'{name}' is not a text encoding; use codecs.decode() to handle arbitrary codecs"
  | multiByte => "multi-byte encodings are not supported"
  | refusing name reason => s!"decoding with '{name}' codec failed (UnicodeError: {reason})"
  | beyondAscii =>
      "'ascii' codec can't decode byte 0x80 in position 82: ordinal not in range(128)"

/-- Why bytes are no document. -/
inductive Flaw where
  | malformed
  | encoding (problem : EncodingProblem)
deriving Repr, DecidableEq

namespace Encoding

/-- The encoding that the first bytes suggest, and the bytes without a mark of their order. -/
def guess : List UInt8 → Encoding × List UInt8
  | 0xEF :: 0xBB :: 0xBF :: bytes => (utf8, bytes)
  | 0xFE :: 0xFF :: bytes => (utf16 true, bytes)
  | 0xFF :: 0xFE :: bytes => (utf16 false, bytes)
  | 0 :: bytes => (utf16 true, 0 :: bytes)
  | byte :: 0 :: bytes => (utf16 false, byte :: 0 :: bytes)
  | bytes => (utf8, bytes)

/-- The number of bytes of an ASCII character. -/
def width : Encoding → Nat
  | utf16 _ => 2
  | _ => 1

/-- What names are made of. -/
def alphabet : Encoding → Alphabet
  | latin1 | utf16 _ => .latin
  | utf8 | page _ => .listed

/-- A sixteen-bit unit of two bytes. -/
def unit (highFirst : Bool) (a b : UInt8) : Nat :=
  if highFirst then a.toNat * 256 + b.toNat else b.toNat * 256 + a.toNat

/-- The sixteen-bit units of bytes; a byte left over is no unit. -/
def units? (highFirst : Bool) : List UInt8 → Option (List Nat)
  | [] => some []
  | [_] => none
  | a :: b :: bytes => (units? highFirst bytes).map (unit highFirst a b :: ·)

/-- The characters of units, `high` being the first half of a pair. Whatever follows a first
half is taken for its second, of which the ten lowest bits count. -/
def charsOfUnits? : Option Nat → List Nat → Option (List Char)
  | none, [] => some []
  | some _, [] => none
  | none, unit :: units =>
      if 0xD800 ≤ unit ∧ unit < 0xDC00 then charsOfUnits? (some unit) units
      else if 0xDC00 ≤ unit ∧ unit < 0xE000 then none
      else (charsOfUnits? none units).map (Char.ofNat unit :: ·)
  | some high, unit :: units =>
      let code := 0x10000 + (high - 0xD800) * 0x400 + unit % 0x400
      (charsOfUnits? none units).map (Char.ofNat code :: ·)

def decode? : Encoding → List UInt8 → Option (List Char)
  | utf8, bytes => (Text.Utf8.decode bytes).toOption
  | latin1, bytes => some (bytes.map fun byte => Char.ofNat byte.toNat)
  | utf16 highFirst, bytes => (units? highFirst bytes).bind (charsOfUnits? none)
  | page codes, bytes => codes.decode? bytes

/-- The ASCII characters of two bytes each at the start. -/
def wideLead (highFirst : Bool) : List UInt8 → List Char
  | a :: b :: bytes =>
      let code := unit highFirst a b
      if code < 0x80 then Char.ofNat code :: wideLead highFirst bytes else []
  | _ => []

/-- The ASCII characters at the start. -/
def asciiLead : Encoding → List UInt8 → List Char
  | utf16 highFirst, bytes => wideLead highFirst bytes
  | _, bytes => (bytes.takeWhile (· < 0x80)).map fun byte => Char.ofNat byte.toNat

/-- Encodings with several bytes for some characters. -/
def multiByte : Text.Labels where
  names := ["big5", "big5hkscs", "cp932", "cp949", "cp950", "euc_jis_2004", "euc_jisx0213",
             "euc_jp", "euc_kr", "gb18030", "gb2312", "gbk", "iso2022_kr", "johab", "shift_jis",
             "shift_jis_2004", "shift_jisx0213", "utf_16", "utf_16_be", "utf_16_le", "utf_32",
             "utf_32_be", "utf_32_le", "utf_7"]
  aliases := ["big5_hkscs", "big5_tw", "chinese", "cp1361", "cp936", "csbig5", "csiso2022kr",
               "csiso58gb231280", "csshiftjis", "euc_cn", "euc_jis2004", "euccn", "eucgb2312_cn",
               "eucjis2004", "eucjisx0213", "eucjp", "euckr", "gb18030_2000", "gb2312_1980",
               "gb2312_80", "hkscs", "iso2022kr", "iso_2022_kr", "iso_ir_58", "jisx0213",
               "korean", "ks_c_5601", "ks_c_5601_1987", "ks_x_1001", "ksc5601", "ksx1001",
               "ms1361", "ms932", "ms936", "ms949", "ms950", "ms_kanji", "mskanji", "s_jis",
               "s_jis_2004", "s_jisx0213", "shiftjis", "shiftjis2004", "shiftjisx0213", "sjis",
               "sjis_2004", "sjisx0213", "u16", "u32", "u7", "u_jis", "uhc", "ujis",
               "unicode_1_1_utf_7", "unicodebigunmarked", "unicodelittleunmarked", "utf16",
               "utf32", "utf7", "utf_16be", "utf_16le", "utf_32be", "utf_32le", "x_mac_japanese",
               "x_mac_korean", "x_mac_simp_chinese", "x_mac_trad_chinese"]

/-- Encodings in which ASCII characters have other codes. -/
def otherLetters : Text.Labels where
  names := ["cp037", "cp1026", "cp1140", "cp273", "cp424", "cp500", "cp864", "cp875",
             "mac_arabic", "mac_farsi"]
  aliases := ["csibm037", "csibm1026", "csibm273", "csibm424", "csibm500", "csibm864",
               "ebcdic_cp_be", "ebcdic_cp_ca", "ebcdic_cp_ch", "ebcdic_cp_he", "ebcdic_cp_nl",
               "ebcdic_cp_us", "ebcdic_cp_wt", "ibm037", "ibm039", "ibm1026", "ibm1140",
               "ibm273", "ibm424", "ibm500", "ibm864"]

/-- Encodings of something else than text. -/
def notText : Text.Labels where
  names := ["base64_codec", "bz2_codec", "hex_codec", "quopri_codec", "rot_13", "uu_codec",
             "zlib_codec"]
  aliases := ["base64", "base_64", "bz2", "hex", "quopri", "quoted_printable", "quotedprintable",
               "rot13", "uu", "zip", "zlib"]

/-- The encoding that is declared under a name other than those of the encodings built in. -/
def looked (name : String) : Except Flaw Encoding :=
  let plain := Text.Labels.plain name
  match Text.CodePage.find? name with
  | some found => .ok (page found)
  | none =>
      if multiByte.has plain then .error (.encoding .multiByte)
      else if otherLetters.has plain then .error .malformed
      else if notText.has plain then .error (.encoding (.notText name))
      else if plain = "idna" then
        .error (.encoding (.refusing name "Unsupported error handling replace"))
      else if plain = "undefined" then .error (.encoding (.refusing name "undefined encoding"))
      else if plain = "punycode" then .error (.encoding .beyondAscii)
      else .error (.encoding (.unknown name))

/-- The encoding of what follows a declaration in a document that was guessed to be in an
encoding, by the name declared. -/
def declared (guessed : Encoding) (name : String) : Except Flaw Encoding :=
  let isWide := guessed.width = 2
  match String.ofList (name.toList.map Char.toLower) with
  | "utf-8" => if isWide then .error .malformed else .ok utf8
  | "iso-8859-1" => if isWide then .error .malformed else .ok latin1
  | "us-ascii" => if isWide then .error .malformed else .ok (page Text.CodePage.ascii)
  | "utf-16" => if isWide then .ok guessed else .error .malformed
  | "utf-16be" => if guessed = utf16 true then .ok guessed else .error .malformed
  | "utf-16le" => if guessed = utf16 false then .ok guessed else .error .malformed
  | _ => looked name

end Encoding

namespace Element

/-- What opens a document: its declaration, the encoding of what follows, and that itself. The
name of an encoding counts unless the document is `labelled` with one from outside. -/
def opening (labelled : Bool) (bytes : List UInt8) :
    Except Flaw (Header × Encoding × List UInt8) := do
  let (guessed, bytes) := Encoding.guess bytes
  let (header, size) ← match Header.read? (guessed.asciiLead bytes) with
    | some found => pure found
    | none => throw .malformed
  let encoding ← match header.encoding with
    | some name => if labelled then pure guessed else guessed.declared name
    | none => pure guessed
  return (header, encoding, bytes.drop (size * guessed.width))

/-- Reads a document of bytes, which may be labelled as UTF-8 from outside. -/
def readBytes (labelled : Bool) (bytes : List UInt8) : Except Flaw Element := do
  let (header, encoding, rest) ← opening labelled bytes
  match (encoding.decode? rest).bind (ofChars? encoding.alphabet header.alone) with
  | some root => .ok root
  | none => .error .malformed

def ofBytes (bytes : List UInt8) : Except Flaw Element :=
  readBytes false bytes

def ofText (text : String) : Except Flaw Element :=
  readBytes true (Text.Utf8.encode text)

end Element

end OverlayPatch.Markup
