import TemplateServer.Text.Hex
import TemplateServer.Text.Utf8

/-!
Percent escapes. Control characters and the bytes of characters outside ASCII
are always escaped; which other characters are depends on the part of the
address that they stand in.
-/

namespace TemplateServer.Url

def upperHexDigit (value : Nat) : Char :=
  Char.ofNat (if value < 10 then 48 + value else 55 + value)

def escapedByte (byte : UInt8) : List Char :=
  ['%', upperHexDigit (byte.toNat / 16), upperHexDigit (byte.toNat % 16)]

/-- Escapes the characters of a set and those that are always escaped. -/
def escapedBytes (reserved : List Char) (bytes : List UInt8) : String :=
  String.ofList <| bytes.flatMap fun byte =>
    let char := Char.ofNat byte.toNat
    if byte < 0x20 || 0x7F ≤ byte || reserved.contains char then escapedByte byte else [char]

def escaped (reserved : List Char) (text : String) : String :=
  escapedBytes reserved (Text.bytes text)

def fragmentReserved : List Char := [' ', '"', '<', '>', '\x60']

def pathReserved : List Char := fragmentReserved ++ ['#', '?', '\x7b', '\x7d']

def segmentReserved : List Char := pathReserved ++ ['/', '%', '\\']

def queryReserved : List Char := [' ', '"', '#', '<', '>']

def userReserved : List Char := pathReserved ++ ['/', ':', ';', '=', '@', '[', '\\', ']', '^', '|']

/-- The bytes that an escaped text stands for. A percent sign without two
hexadecimal digits stands for itself. -/
def unescapedBytes : List UInt8 → List UInt8
  | 0x25 :: high :: low :: rest =>
      match Text.hexDigit? (Char.ofNat high.toNat), Text.hexDigit? (Char.ofNat low.toNat) with
      | some upper, some lower => UInt8.ofNat (upper * 16 + lower) :: unescapedBytes rest
      | _, _ => 0x25 :: unescapedBytes (high :: low :: rest)
  | byte :: rest => byte :: unescapedBytes rest
  | [] => []

def unescaped (text : String) : String := Text.decodeLossy (unescapedBytes (Text.bytes text))

end TemplateServer.Url
