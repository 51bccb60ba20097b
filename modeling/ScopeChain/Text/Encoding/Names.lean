/-
The names of encodings.

A name is read in one spelling, in which its words have single lines between them and are in
lower case.  A point is part of a word, but may stand for a line in a name that is not the
main name of an encoding.
-/
import ScopeChain.Text.Charset.Dos
import ScopeChain.Text.Charset.Ebcdic
import ScopeChain.Text.Charset.Iso
import ScopeChain.Text.Charset.Macintosh
import ScopeChain.Text.Charset.National
import ScopeChain.Text.Charset.Windows
import ScopeChain.Text.Encoding.Basic
import ScopeChain.Text.Runs

namespace ScopeChain
namespace Encoding

/-- A named way from bytes.  Those that do not lead to text have no encoding. -/
structure Registered where
  name : String
  aliases : List String
  encoding : Option Encoding

/-- The ways from bytes that have no table. -/
def general : List Registered := [
  ⟨"utf_8", ["cp65001", "u8", "utf", "utf8", "utf8_ucs2", "utf8_ucs4"], some .utf8⟩,
  ⟨"utf_8_sig", [], some .markedUtf8⟩,
  ⟨"utf_16", ["u16", "utf16"], some .markedUtf16⟩,
  ⟨"utf_16_le", ["unicodelittleunmarked", "utf_16le"], some (.utf16 .little)⟩,
  ⟨"utf_16_be", ["unicodebigunmarked", "utf_16be"], some (.utf16 .big)⟩,
  ⟨"utf_32", ["u32", "utf32"], some .markedUtf32⟩,
  ⟨"utf_32_le", ["utf_32le"], some (.utf32 .little)⟩,
  ⟨"utf_32_be", ["utf_32be"], some (.utf32 .big)⟩,
  ⟨"utf_7", ["u7", "unicode_1_1_utf_7", "utf7"], some .utf7⟩,
  ⟨"ascii", ["646", "ansi_x3.4_1968", "ansi_x3.4_1986", "ansi_x3_4_1968", "cp367", "csascii",
    "ibm367", "iso646_us", "iso_646.irv_1991", "iso_ir_6", "us", "us_ascii"], some .ascii⟩,
  ⟨"latin_1", ["8859", "cp819", "csisolatin1", "ibm819", "iso8859", "iso8859_1", "iso_8859_1",
    "iso_8859_1_1987", "iso_ir_100", "l1", "latin", "latin1"], some .latin1⟩,
  ⟨"charmap", [], some .latin1⟩,
  ⟨"unicode_escape", [], some (.escaped false)⟩,
  ⟨"raw_unicode_escape", [], some (.escaped true)⟩,
  ⟨"punycode", [], some .punycode⟩,
  ⟨"idna", [], some .domain⟩,
  ⟨"undefined", [], some .void⟩,
  ⟨"base64_codec", ["base64", "base_64"], none⟩,
  ⟨"bz2_codec", ["bz2"], none⟩,
  ⟨"hex_codec", ["hex"], none⟩,
  ⟨"quopri_codec", ["quopri", "quoted_printable", "quotedprintable"], none⟩,
  ⟨"rot_13", ["rot13"], none⟩,
  ⟨"uu_codec", ["uu"], none⟩,
  ⟨"zlib_codec", ["zip", "zlib"], none⟩]

/-- The character sets that have tables. -/
def charsets : List Charset :=
  Charset.iso ++ Charset.windows ++ Charset.dos ++ Charset.macintosh ++ Charset.national ++
    Charset.ebcdic

/-- The character sets of several bytes. -/
def multibytes : List Multibyte := Multibyte.chinese ++ Multibyte.korean ++ Multibyte.japanese

/-- All named ways from bytes. -/
def registry : List Registered :=
  general ++ (charsets.map fun s => ⟨s.name, s.aliases, some (.charset s)⟩) ++
    multibytes.map fun s => ⟨s.name, s.aliases, some (.multibyte s)⟩

/-- A name in one spelling: its words, which letters, digits and points make up. -/
def spelling (name : String) : String :=
  String.intercalate "_" <|
    (runs (fun c => c.isAlphanum || c = '.') name.toList).map fun word =>
      String.ofList (word.map Char.toLower)

/-- A spelling with lines for points. -/
def lined (spelling : String) : String :=
  String.ofList (spelling.toList.map fun c => if c = '.' then '_' else c)

/-- What is registered under a spelling.  Aliases go before main names. -/
def find? (spelling : String) : Option Registered :=
  (registry.find? (·.aliases.contains spelling)).or <|
    (registry.find? (·.aliases.contains (lined spelling))).or <|
      registry.find? (·.name == spelling)

/-- The encoding of a name.  The encoding of the place where the host is, which has a name of
its own, is UTF-8. -/
def named (name : String) : Except Refusal Encoding :=
  if name.toList.contains '\x00' then .error .nullInName
  else if name = "locale" then .ok .utf8
  else
    match find? (spelling name) with
    | none => .error (.unknown name)
    | some ⟨_, _, none⟩ => .error (.notText name)
    | some ⟨_, _, some encoding⟩ => .ok encoding

end Encoding
end ScopeChain
