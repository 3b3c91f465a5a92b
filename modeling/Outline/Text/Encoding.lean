import Outline.Text.Name
import Outline.Text.Quoted
import Outline.Text.Utf16
import Outline.Text.Utf8

/-!
# Text encodings

Reading bytes as a text in one of some encodings, the names these go by, and codecs in general: the
program reads files by whatever codecs there are.
-/

namespace Outline.Text

/-- An encoding of text as bytes that is spelled out here. The wide ones without a fixed order take
it from a mark at the beginning. -/
inductive Encoding where
  | utf8
  | utf8Marked
  | latin1
  | ascii
  | windows1252
  | utf16
  | utf16Fixed (order : ByteOrder)
  | utf32
  | utf32Fixed (order : ByteOrder)
  deriving DecidableEq

/-- Why bytes cannot be read as a text. A codec that is not spelled out here words that itself. -/
inductive DecodeError where
  | undecodable (codec : String) (first : UInt8) (fault : Fault)
  | unmarked (codec : String)
  | told (message : String)
  deriving DecidableEq

/-- The wording of a decoding error. -/
def DecodeError.message : DecodeError → String
  | .undecodable codec first fault =>
    let place :=
      if fault.stop = fault.start + 1 then
        s!"byte 0x{String.ofList (hexDigits 2 first.toNat)} in position {fault.start}"
      else s!"bytes in position {fault.start}-{fault.stop - 1}"
    s!"'{codec}' codec can't decode {place}: {fault.reason}"
  | .unmarked codec => s!"{codec} stream does not start with BOM"
  | .told message   => message

/-! ### Names -/

/-- The common form of a name: lower case, each run of other characters than ASCII letters, digits
and dots one underscore, and none at the ends. -/
def canonicalName (name : String) : String :=
  let word (c : Char) : Bool := c.isAlphanum || c == '.'
  let step (state : List Char × Bool) (c : Char) : List Char × Bool :=
    if word c then
      let gap := state.2 && !state.1.isEmpty
      (c.toLower :: (if gap then '_' :: state.1 else state.1), false)
    else (state.1, true)
  String.ofList (name.toList.foldl step ([], false)).1.reverse

/-! ### Reading bytes -/

/-- The characters of the bytes 0x80 to 0x9F in the Windows code page, where they have one. -/
def windows1252High : List (Option Nat) := [
  some 0x20AC, none, some 0x201A, some 0x0192, some 0x201E, some 0x2026, some 0x2020, some 0x2021,
  some 0x02C6, some 0x2030, some 0x0160, some 0x2039, some 0x0152, none, some 0x017D, none,
  none, some 0x2018, some 0x2019, some 0x201C, some 0x201D, some 0x2022, some 0x2013, some 0x2014,
  some 0x02DC, some 0x2122, some 0x0161, some 0x203A, some 0x0153, none, some 0x017E, some 0x0178]

/-- Reads bytes that are a character each, as far as they have one. -/
def decodeSingle (char? : UInt8 → Option Char) (reason : String) (position : Nat)
    (done : List Char) : List UInt8 → Decoded
  | []        => .ok done
  | b :: rest =>
    match char? b with
    | some c => decodeSingle char? reason (position + 1) (c :: done) rest
    | none   => .error ⟨position, position + 1, reason⟩

/-- The ASCII character of a byte. -/
def asciiChar? (b : UInt8) : Option Char :=
  if b < 0x80 then some (Char.ofNat b.toNat) else none

/-- The character of a byte in the Windows code page. -/
def windows1252Char? (b : UInt8) : Option Char :=
  if 0x80 ≤ b && b < 0xA0 then
    (windows1252High.getD (b.toNat - 0x80) none).map Char.ofNat
  else some (Char.ofNat b.toNat)

/-- A decoded text, or the error that names the codec and the first bad byte. -/
def settle (codec : String) (bytes : List UInt8) : Decoded → Except DecodeError String
  | .ok done     => .ok (String.ofList done.reverse)
  | .error fault => .error (.undecodable codec (bytes.getD fault.start 0) fault)

/-- The name by which errors call an order of wide units. -/
def orderedName (base : String) : ByteOrder → String
  | .little => base ++ "-le"
  | .big    => base ++ "-be"

/-- Reads UTF-16 whose mark decides the order; without a mark the low byte comes first, and a text
that is read that way is refused. -/
def decodeUtf16 (bytes : List UInt8) : Except DecodeError String :=
  let read (order : ByteOrder) (position : Nat) (rest : List UInt8) :=
    settle (orderedName "utf-16" order) bytes (Utf16.decodeFrom order position none [] rest)
  match bytes with
  | 0xFF :: 0xFE :: rest => read .little 2 rest
  | 0xFE :: 0xFF :: rest => read .big 2 rest
  | _ => do
    let text ← read .little 0 bytes
    if bytes.isEmpty then .ok text else .error (.unmarked "UTF-16")

/-- Reads UTF-32 whose mark decides the order, as with UTF-16. -/
def decodeUtf32 (bytes : List UInt8) : Except DecodeError String :=
  let read (order : ByteOrder) (position : Nat) (rest : List UInt8) :=
    settle (orderedName "utf-32" order) bytes (Utf32.decodeFrom order position [] rest)
  match bytes with
  | 0xFF :: 0xFE :: 0x00 :: 0x00 :: rest => read .little 4 rest
  | 0x00 :: 0x00 :: 0xFE :: 0xFF :: rest => read .big 4 rest
  | _ => do
    let text ← read .little 0 bytes
    if bytes.isEmpty then .ok text else .error (.unmarked "UTF-32")

/-- Reads UTF-8 after a mark, which is dropped; a file that ends within the mark is empty. -/
def decodeUtf8Marked (bytes : List UInt8) : Except DecodeError String :=
  match bytes with
  | [0xEF] | [0xEF, 0xBB]        => .ok ""
  | 0xEF :: 0xBB :: 0xBF :: rest => settle "utf-8" rest (Utf8.decode rest)
  | _                            => settle "utf-8" bytes (Utf8.decode bytes)

/-- Reads bytes as a text. -/
def Encoding.decode : Encoding → List UInt8 → Except DecodeError String
  | .utf8, bytes        => settle "utf-8" bytes (Utf8.decode bytes)
  | .utf8Marked, bytes  => decodeUtf8Marked bytes
  | .latin1, bytes      => settle "latin-1" bytes (.ok (bytes.map (Char.ofNat ·.toNat)).reverse)
  | .ascii, bytes       =>
    settle "ascii" bytes (decodeSingle asciiChar? "ordinal not in range(128)" 0 [] bytes)
  | .windows1252, bytes =>
    settle "charmap" bytes
      (decodeSingle windows1252Char? "character maps to <undefined>" 0 [] bytes)
  | .utf16, bytes       => decodeUtf16 bytes
  | .utf16Fixed order, bytes =>
    settle (orderedName "utf-16" order) bytes (Utf16.decodeFrom order 0 none [] bytes)
  | .utf32, bytes       => decodeUtf32 bytes
  | .utf32Fixed order, bytes =>
    settle (orderedName "utf-32" order) bytes (Utf32.decodeFrom order 0 [] bytes)

/-! ### Names of encodings -/

namespace Encoding

/-- The further names of the encodings, in their common form. No encoding goes by those that stand
for ways to turn bytes into other bytes. -/
def aliases : List (String × Option Encoding) :=
  (["u8", "utf", "utf8", "utf8_ucs2", "utf8_ucs4", "cp65001"].map (·, some utf8)) ++
  (["8859", "cp819", "csisolatin1", "ibm819", "iso8859", "iso8859_1", "iso_8859_1",
    "iso_8859_1_1987", "iso_ir_100", "l1", "latin", "latin1"].map (·, some latin1)) ++
  (["646", "ansi_x3.4_1968", "ansi_x3_4_1968", "ansi_x3.4_1986", "cp367", "csascii", "ibm367",
    "iso646_us", "iso_646.irv_1991", "iso_ir_6", "us", "us_ascii"].map (·, some ascii)) ++
  (["1252", "windows_1252"].map (·, some windows1252)) ++
  (["u16", "utf16"].map (·, some utf16)) ++
  (["unicodelittleunmarked", "utf_16le"].map (·, some (utf16Fixed .little))) ++
  (["unicodebigunmarked", "utf_16be"].map (·, some (utf16Fixed .big))) ++
  (["u32", "utf32"].map (·, some utf32)) ++
  [("utf_32le", some (utf32Fixed .little)), ("utf_32be", some (utf32Fixed .big))] ++
  (["base64", "base_64", "bz2", "hex", "quopri", "quoted_printable", "quotedprintable", "rot13",
    "uu", "zip", "zlib"].map (·, none))

/-- The proper names of the encodings, and of the same ways. -/
def properNames : List (String × Option Encoding) :=
  [("utf_8", some utf8), ("utf_8_sig", some utf8Marked), ("latin_1", some latin1),
    ("ascii", some ascii), ("cp1252", some windows1252), ("utf_16", some utf16),
    ("utf_16_le", some (utf16Fixed .little)), ("utf_16_be", some (utf16Fixed .big)),
    ("utf_32", some utf32), ("utf_32_le", some (utf32Fixed .little)),
    ("utf_32_be", some (utf32Fixed .big))] ++
  (["base64_codec", "bz2_codec", "hex_codec", "quopri_codec", "rot_13", "uu_codec",
    "zlib_codec"].map (·, none))

/-- What is known to go by a name. In a further name a dot may stand for an underscore. -/
def named? (name : String) : Option (Option Encoding) :=
  let key := canonicalName name
  let undotted := String.ofList (key.toList.map fun c => if c = '.' then '_' else c)
  aliases.lookup key <|> aliases.lookup undotted <|> properNames.lookup key

end Encoding

/-! ### Codecs -/

/-- What the name of an encoding can stand for: a way to read bytes as a text, or one to turn bytes
into other bytes. Code points that make no text are none that could be read. -/
inductive Codec where
  | text (decode : List UInt8 → Except DecodeError String)
  | bytes

/-- The codecs that there are, by any of their names. -/
abbrev Codecs := String → Option Codec

/-- The codecs of the encodings that are spelled out here. -/
def Codecs.bundled : Codecs := fun name =>
  (Encoding.named? name).map fun
    | some encoding => .text encoding.decode
    | none          => .bytes

end Outline.Text
