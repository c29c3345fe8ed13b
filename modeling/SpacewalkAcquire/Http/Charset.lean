import SpacewalkAcquire.Http.Exchange

/-!
# The text of a reply

`Http.contentText`, the decoder of the program, reads content by the character set of its `content-type`, UTF-8 unless
one is known by that name. A byte order mark decides before the name does, and is dropped. What has no meaning becomes
U+FFFD. All else takes the decoder as a parameter.
-/

namespace SpacewalkAcquire.Http

inductive Charset where
  | utf8
  | western
  | utf16 (bigEndian : Bool)
  deriving DecidableEq, Repr

namespace Charset

def westernNames : List String :=
  ["ansi_x3.4-1968", "ascii", "cp1252", "cp819", "csisolatin1", "ibm819", "iso-8859-1", "iso-ir-100", "iso8859-1",
    "iso88591", "iso_8859-1", "iso_8859-1:1987", "l1", "latin1", "us-ascii", "windows-1252", "x-cp1252"]

def littleNames : List String :=
  ["csunicode", "iso-10646-ucs-2", "ucs-2", "unicode", "unicodefeff", "utf-16", "utf-16le"]

/-- The character set of a name in small letters. -/
def ofName (name : String) : Charset :=
  if westernNames.contains name then western
  else if littleNames.contains name then utf16 false
  else if name = "utf-16be" || name = "unicodefffe" then utf16 true
  else utf8

/-- The characters of the Western set from 0x80 to 0x9F. -/
def westernExtras : List Nat :=
  [0x20AC, 0x81, 0x201A, 0x192, 0x201E, 0x2026, 0x2020, 0x2021, 0x2C6, 0x2030, 0x160, 0x2039, 0x152, 0x8D, 0x17D, 0x8F,
    0x90, 0x2018, 0x2019, 0x201C, 0x201D, 0x2022, 0x2013, 0x2014, 0x2DC, 0x2122, 0x161, 0x203A, 0x153, 0x9D, 0x17E,
    0x178]

def westernChar (b : UInt8) : Char :=
  if 0x80 ≤ b && b < 0xA0 then Char.ofNat (westernExtras.getD (b.toNat - 0x80) 0xFFFD) else Char.ofNat b.toNat

/-- The sixteen-bit units of bytes, and whether a single byte is left at the end. -/
def units (bigEndian : Bool) : Bytes → List Nat × Bool
  | a :: b :: rest =>
    let (us, odd) := units bigEndian rest
    ((if bigEndian then 256 * a.toNat + b.toNat else 256 * b.toNat + a.toNat) :: us, odd)
  | [_] => ([], true)
  | [] => ([], false)

def isHigh (u : Nat) : Bool := 0xD800 ≤ u && u < 0xDC00

def isLow (u : Nat) : Bool := 0xDC00 ≤ u && u < 0xE000

def joinUnits : List Nat → List Char
  | [] => []
  | [u] => [if isHigh u || isLow u then '\ufffd' else Char.ofNat u]
  | u :: v :: rest =>
    if isHigh u then
      if isLow v then Char.ofNat (0x10000 + 0x400 * (u - 0xD800) + (v - 0xDC00)) :: joinUnits rest
      else '\ufffd' :: joinUnits (v :: rest)
    else (if isLow u then '\ufffd' else Char.ofNat u) :: joinUnits (v :: rest)

def decode : Charset → Bytes → String
  | utf8, bytes => Text.ofUtf8Lossy bytes
  | western, bytes => String.ofList (bytes.map westernChar)
  | utf16 bigEndian, bytes =>
    let (us, odd) := units bigEndian bytes
    String.ofList (joinUnits us ++ if odd then ['\ufffd'] else [])

/-- A character of which the names in a content type are made. -/
def isNameChar (c : Char) : Bool := c.isAlphanum || "!#$%&*+-.^_|~\x27\x60".toList.contains c

/-- A type and a subtype with `/` in between. -/
def isMediaType (s : List Char) : Bool :=
  match Text.cutAt '/' s with
  | some (main, sub) => !main.isEmpty && main.all isNameChar && !sub.isEmpty && sub.all isNameChar
  | none => false

/-- The value of the parameter `charset` among the parameters of a content type, in small letters. -/
def name? (contentType : List Char) : Option String :=
  match Text.splitOn ';' contentType with
  | [] => none
  | mediaType :: parameters =>
    if !isMediaType (Text.trimWith Text.isBlank mediaType) then none
    else List.head? <| parameters.filterMap fun parameter =>
      match Text.cutAt '=' (Text.trimWith Text.isBlank parameter) with
      | some (name, value) =>
        if Text.asciiLower name = "charset".toList then
          some (String.ofList (Text.asciiLower (value.filter (· ≠ '"'))))
        else none
      | none => none

/-- The text of bytes in the character set `name`; a byte order mark overrides the name. -/
def read (name : Option String) (bytes : Bytes) : String :=
  match bytes with
  | 0xEF :: 0xBB :: 0xBF :: rest => utf8.decode rest
  | 0xFF :: 0xFE :: rest => (utf16 false).decode rest
  | 0xFE :: 0xFF :: rest => (utf16 true).decode rest
  | _ => ((name.map ofName).getD utf8).decode bytes

end Charset

/-- The decoder of the program. -/
def contentText : Decoder := fun contentType? content =>
  Charset.read (contentType?.bind fun s => Charset.name? s.toList) content

end SpacewalkAcquire.Http
