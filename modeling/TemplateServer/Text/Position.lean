import TemplateServer.Text.Utf8

/-!
Editor positions. A position is a line and a column in UTF-16 code units; an
offset counts UTF-8 bytes. Lines end at line feeds and nowhere else. The line of
an offset is looked up in the offsets at which the lines start.
-/

namespace TemplateServer.Text

structure Position where
  line : Nat
  column : Nat
  deriving DecidableEq

structure Range where
  start : Position
  stop : Position
  deriving DecidableEq

/-- The number of UTF-16 code units of a character. -/
def units (char : Char) : Nat := if 0xFFFF < char.toNat then 2 else 1

/-- The number of UTF-8 bytes of a text. -/
def size : List Char → Nat
  | [] => 0
  | char :: rest => char.utf8Size + size rest

def takeBytes (offset : Nat) : List Char → List Char
  | [] => []
  | char :: rest =>
      if offset < char.utf8Size then [] else char :: takeBytes (offset - char.utf8Size) rest

def dropBytes (offset : Nat) : List Char → List Char
  | [] => []
  | char :: rest =>
      if offset < char.utf8Size then char :: rest else dropBytes (offset - char.utf8Size) rest

def slice (start stop : Nat) (chars : List Char) : List Char :=
  takeBytes (stop - start) (dropBytes start chars)

/-- The offsets behind the line feeds among some bytes, of which the first one
has the offset `first`. -/
def feedEnds (first : Nat) (input : List UInt8) : List Nat :=
  ((input.zipIdx first).filter fun (byte, _) => byte == 0x0A).map fun (_, index) => index + 1

def lineStarts (text : String) : List Nat := 0 :: feedEnds 0 (bytes text)

/-- Where a number is among increasing ones, or where it would have to be put. -/
inductive SearchResult where
  | found (index : Nat)
  | missing (index : Nat)
  deriving DecidableEq

def search (numbers : Array Nat) (wanted low high : Nat) (within : high ≤ numbers.size) :
    SearchResult :=
  if remaining : low < high then
    let middle := (low + high) / 2
    have inside : middle < numbers.size := by omega
    if numbers[middle] = wanted then .found middle
    else if numbers[middle] < wanted then search numbers wanted (middle + 1) high within
    else search numbers wanted low middle (by omega)
  else .missing low
termination_by high - low

/-- The number of the last line that does not start behind an offset. -/
def lineNumber (starts : List Nat) (offset : Nat) : Nat :=
  match search starts.toArray offset 0 starts.length (Nat.le_refl _) with
  | .found line => line
  -- the offset would have to be put behind the start of its own line
  | .missing line => line - 1

/-- The offsets at which a line starts and ends, without its line feed. -/
def lineBounds? (text : String) (line : Nat) : Option (Nat × Nat) :=
  let starts := lineStarts text
  starts[line]?.map fun start =>
    match starts[line + 1]? with
    | some next => (start, next - 1)
    | none => (start, size text.toList)

/-- The offset in a line at which at least `column` code units lie behind; none
past the end of the line. A column inside a surrogate pair counts as the end of
the pair. -/
def columnOffset? (column : Nat) : List Char → Option Nat
  | [] => if column = 0 then some 0 else none
  | char :: rest =>
      if column = 0 then some 0
      else (columnOffset? (column - units char) rest).map (char.utf8Size + ·)

def offsetColumn? (offset : Nat) : List Char → Option Nat
  | [] => if offset = 0 then some 0 else none
  | char :: rest =>
      if offset = 0 then some 0
      else if offset < char.utf8Size then none
      else (offsetColumn? (offset - char.utf8Size) rest).map (units char + ·)

def isBoundary (offset : Nat) : List Char → Bool
  | [] => offset == 0
  | char :: rest =>
      offset == 0 ||
        decide (char.utf8Size ≤ offset) && isBoundary (offset - char.utf8Size) rest

def snap (chars : List Char) : Nat → Nat
  | 0 => 0
  | offset + 1 => if isBoundary (offset + 1) chars then offset + 1 else snap chars offset

/-- The column of the character that an offset in a line points into. An offset
past the end of the line counts as the end. -/
def column? (offset : Nat) (content : List Char) : Option Nat :=
  offsetColumn? (snap content (min offset (size content))) content

/-- The offset of a position. A column past the end of its line counts as the
end of the line; a line past the last one has no offset. -/
def offset? (text : String) (position : Position) : Option Nat :=
  (lineBounds? text position.line).map fun (start, stop) =>
    match columnOffset? position.column (slice start stop text.toList) with
    | some inLine => start + inLine
    | none => stop

/-- The number of lines or columns that a position can tell apart. A greater
number wraps around. -/
def coordinateLimit : Nat := 0x100000000

/-- The position of an offset. An offset inside a character counts as the start
of that character; an offset past the end has no position. -/
def position? (text : String) (offset : Nat) : Option Position :=
  if size text.toList < offset then none
  else
    let line := lineNumber (lineStarts text) offset
    (lineBounds? text line).map fun (start, stop) =>
      let column := (column? (offset - start) (slice start stop text.toList)).getD 0
      ⟨line % coordinateLimit, column % coordinateLimit⟩

def range? (text : String) (start stop : Nat) : Option Range := do
  return ⟨← position? text start, ← position? text stop⟩

end TemplateServer.Text
