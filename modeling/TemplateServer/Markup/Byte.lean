/-!
The byte classes of the markup language. A byte of a multi-byte character
belongs to the classes of names and to no class of delimiters, so every slice
that the scanner cuts at a delimiter is a whole number of characters.
-/

namespace TemplateServer.Markup

namespace Byte

abbrev hash : UInt8 := 0x23
abbrev dollar : UInt8 := 0x24
abbrev openParenthesis : UInt8 := 0x28
abbrev closeParenthesis : UInt8 := 0x29
abbrev comma : UInt8 := 0x2C
abbrev hyphen : UInt8 := 0x2D
abbrev dot : UInt8 := 0x2E
abbrev slash : UInt8 := 0x2F
abbrev less : UInt8 := 0x3C
abbrev equals : UInt8 := 0x3D
abbrev greater : UInt8 := 0x3E
abbrev exclamation : UInt8 := 0x21
abbrev question : UInt8 := 0x3F
abbrev backslash : UInt8 := 0x5C
abbrev openBrace : UInt8 := 0x7B
abbrev bar : UInt8 := 0x7C

end Byte

/-- Space, tab, line feed, form feed and carriage return. -/
def isBlank (byte : UInt8) : Bool :=
  byte == 0x20 || byte == 0x09 || byte == 0x0A || byte == 0x0C || byte == 0x0D

/-- Double quote, single quote and backtick. -/
def isQuote (byte : UInt8) : Bool := byte == 0x22 || byte == 0x27 || byte == 0x60

def isOpener (byte : UInt8) : Bool := byte == 0x28 || byte == 0x5B || byte == 0x7B

def isCloser (byte : UInt8) : Bool := byte == 0x29 || byte == 0x5D || byte == 0x7D

def isLetter (byte : UInt8) : Bool :=
  (0x41 ≤ byte && byte ≤ 0x5A) || (0x61 ≤ byte && byte ≤ 0x7A)

def isDigit (byte : UInt8) : Bool := 0x30 ≤ byte && byte ≤ 0x39

/-- The bytes that may follow the `<` of an open tag. -/
def isTagStart (byte : UInt8) : Bool :=
  isLetter byte || byte == 0x40 || byte == 0x24 || byte == 0x5F || 0x80 ≤ byte

def isTagByte (byte : UInt8) : Bool :=
  isLetter byte || isDigit byte || byte == 0x2D || byte == 0x5F || byte == 0x3A ||
    byte == 0x40 || byte == 0x24 || 0x80 ≤ byte

/-- The bytes of an attribute name: anything but blanks, quotes, brackets and
the marks `= > < / , | ;`. -/
def isAttributeByte (byte : UInt8) : Bool :=
  !(isBlank byte || isQuote byte || isOpener byte || isCloser byte || byte == 0x3D ||
    byte == 0x3E || byte == 0x3C || byte == 0x2F || byte == 0x2C || byte == 0x7C ||
    byte == 0x3B)

def isSeparator (byte : UInt8) : Bool := isBlank byte || byte == 0x2C

def lowerByte (byte : UInt8) : UInt8 :=
  if 0x41 ≤ byte && byte ≤ 0x5A then byte + 0x20 else byte

end TemplateServer.Markup
