import DistrictAtlas.Number.Digits
import DistrictAtlas.Text.CodePage.Dos
import DistrictAtlas.Text.CodePage.Iso
import DistrictAtlas.Text.CodePage.Mac
import DistrictAtlas.Text.CodePage.Mainframe
import DistrictAtlas.Text.CodePage.National
import DistrictAtlas.Text.CodePage.Windows
import DistrictAtlas.Text.EastAsian
import DistrictAtlas.Text.Escaped
import DistrictAtlas.Text.Punycode
import DistrictAtlas.Text.Quoted
import DistrictAtlas.Text.Utf7

/-!
# Character sets

The character sets that the payload of a response may be written in, the names they go by, and the
reading of bytes in each. Bytes that stand for no character are read as the replacement character; only
by some odd names nothing is read at all.
-/

namespace DistrictAtlas

/-- A way to write characters as bytes. -/
inductive Charset where
  /-- UTF-8. -/
  | utf8
  /-- UTF-8 after an optional byte order mark. -/
  | markedUtf8
  /-- UTF-7. -/
  | utf7
  /-- UTF-16, after a byte order mark unless the order is known. -/
  | utf16 (order : Option ByteOrder)
  /-- UTF-32, after a byte order mark unless the order is known. -/
  | utf32 (order : Option ByteOrder)
  /-- One byte for each character. -/
  | page (page : CodePage)
  /-- One byte for each of the first characters and escapes for the others, of all kinds or by number
  only. -/
  | escaped (isFull : Bool)
  /-- ASCII, with the other characters and their places behind it. -/
  | punycode
  /-- Two bytes or more for most characters. -/
  | eastAsian (set : EastAsian)
deriving DecidableEq, Repr

namespace Charset

/-- The character sets that hold all of Unicode, each with its own name and the other names it goes
by. -/
def universal : List (Charset × String × List String) :=
  [(.utf8, "utf_8", ["u8", "utf", "utf8", "utf8_ucs2", "utf8_ucs4", "cp65001"]),
   (.markedUtf8, "utf_8_sig", []),
   (.utf7, "utf_7", ["u7", "utf7", "unicode_1_1_utf_7"]),
   (.utf16 none, "utf_16", ["u16", "utf16"]),
   (.utf16 (some .big), "utf_16_be", ["unicodebigunmarked", "utf_16be"]),
   (.utf16 (some .little), "utf_16_le", ["unicodelittleunmarked", "utf_16le"]),
   (.utf32 none, "utf_32", ["u32", "utf32"]),
   (.utf32 (some .big), "utf_32_be", ["utf_32be"]),
   (.utf32 (some .little), "utf_32_le", ["utf_32le"]),
   (.escaped true, "unicode_escape", []),
   (.escaped false, "raw_unicode_escape", []),
   (.punycode, "punycode", [])]

/-- The code pages. -/
def pages : List CodePage :=
  CodePage.iso ++ CodePage.windows ++ CodePage.terminals ++ CodePage.mac ++ CodePage.national ++
    CodePage.mainframes

/-- All character sets, each with its own name and the other names it goes by. -/
def named : List (Charset × String × List String) :=
  universal ++ pages.map (fun found => (page found, found.name, found.aliases)) ++
    EastAsian.named.map fun (set, names) => (eastAsian set, names)

/-- A name in lower case with one underscore for each run of separators between its words. -/
def tidy (name : String) : String :=
  let step := fun (state : List Char × Bool) (c : Char) =>
    if c.isAlphanum || c = '.' then
      let kept := if state.2 && !state.1.isEmpty then '_' :: state.1 else state.1
      (c.toLower :: kept, false)
    else (state.1, true)
  String.ofList (name.toList.foldl step ([], false)).1.reverse

/-- The name with underscores in place of its points. -/
def withoutPoints (name : String) : String :=
  String.ofList (name.toList.map fun c => if c = '.' then '_' else c)

/-- The character set with such another name. -/
def alias? (name : String) : Option Charset :=
  (named.find? fun entry => entry.2.2.contains name).map (·.1)

/-- The character set of that name. Points count as underscores where one of the other names is meant,
and are not in the own name of any. -/
def named? (name : String) : Option Charset :=
  let name := tidy name
  (alias? name).orElse fun _ => (alias? (withoutPoints name)).orElse fun _ =>
    (named.find? fun entry => entry.2.1 = name).map (·.1)

/-- Why no text is read by a name. -/
inductive Refusal where
  /-- The name holds the null character. -/
  | nullCharacter
  /-- The name is that of something with which this cannot be done, for a reason. -/
  | unfit (name reason : String)
  /-- A byte where only those of ASCII may stand, and its index among the bytes there. -/
  | stray (byte : UInt8) (index : Nat)
deriving DecidableEq, Repr

/-- The wording of a refusal. -/
def Refusal.message : Refusal → String
  | .nullCharacter => "embedded null character"
  | .unfit name reason =>
    "decoding with '" ++ name ++ "' codec failed (UnicodeError: " ++ reason ++ ")"
  | .stray byte index =>
    "'ascii' codec can't decode byte 0x" ++ String.ofList (Text.hexDigits 2 byte.toNat) ++
      " in position " ++ String.ofList (Digits.ofNat index) ++ ": ordinal not in range(128)"

/-- The name of a refusal's kind. -/
def Refusal.kind : Refusal → String
  | .nullCharacter => "ValueError"
  | .unfit _ _ => "UnicodeError"
  | .stray _ _ => "UnicodeDecodeError"

/-- The names that no text is read by, and why. -/
def unfitNames : List (String × String) :=
  [("undefined", "undefined encoding"), ("idna", "Unsupported error handling replace")]

/-- Why no text is read by the name, if none is. -/
def refusal? (name : String) : Option Refusal :=
  if name.toList.contains (Char.ofNat 0) then some .nullCharacter
  else (unfitNames.lookup (tidy name)).map (.unfit name)

/-- The character set that a document seems to be written in, for which there is a mark in front or the
place of zeros in its first four bytes. -/
def guess : Bytes → Charset
  | 0xEF :: 0xBB :: 0xBF :: _ => markedUtf8
  | 0xFF :: 0xFE :: 0 :: 0 :: _ => utf32 none
  | 0 :: 0 :: 0xFE :: 0xFF :: _ => utf32 none
  | 0xFF :: 0xFE :: _ => utf16 none
  | 0xFE :: 0xFF :: _ => utf16 none
  | bytes =>
    match (bytes.take 4).map (· == 0) with
    | [true, false, true, false] => utf16 (some .big)
    | [false, true, false, true] => utf16 (some .little)
    | [true, true, true, false] => utf32 (some .big)
    | [false, true, true, true] => utf32 (some .little)
    | _ => utf8

/-- The text that the bytes write in the character set. Half a character that stands alone is read as the
replacement character. -/
def read (bytes : Bytes) : Charset → String
  | utf8 => Utf8.decodeLenient bytes
  | markedUtf8 =>
    Utf8.decodeLenient (if bytes.take 3 = [0xEF, 0xBB, 0xBF] then bytes.drop 3 else bytes)
  | utf7 => Utf7.read bytes
  | utf16 order => Utf16.read order bytes
  | utf32 order => Utf32.read order bytes
  | page found => found.read bytes
  | escaped isFull => EastAsian.read (if isFull then Escaped.fullLead else Escaped.plainLead) bytes
  | punycode => Punycode.read bytes
  | eastAsian set => set.text bytes

/-- Why no text is read from the bytes, if none is. -/
def fault? (bytes : Bytes) : Charset → Option Refusal
  | punycode => (Punycode.stray? bytes).map fun (byte, index) => .stray byte index
  | _ => none

/-- The text that the bytes write in the character set of that name; a name that is not known is passed
over. No bytes write no text whatever the name is. -/
def readNamed (name : String) (bytes : Bytes) : Except Refusal String :=
  if bytes.isEmpty then .ok ""
  else
    match refusal? name with
    | some refusal => .error refusal
    | none =>
      let charset := (named? name).getD .utf8
      match charset.fault? bytes with
      | some refusal => .error refusal
      | none => .ok (charset.read bytes)

end Charset

end DistrictAtlas
