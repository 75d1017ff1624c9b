import TemplateServer.Text.Hex

/-!
Tables of characters, written as lines of text in which blanks divide the rows.
A row names a code point or a range of them in hexadecimal, `AA` or `41-5A`, or
every second one of a range, `100~12E`; a value may follow behind a colon.
-/

namespace TemplateServer.Text

structure CharRow where
  first : Nat
  last : Nat
  /-- The distance between the code points that the row is about. -/
  step : Nat
  value : List Char

namespace CharRow

def ofChars (row : List Char) : CharRow :=
  let range := row.takeWhile (· != ':')
  let first := range.takeWhile fun char => char != '-' && char != '~'
  let last := range.drop (first.length + 1)
  { first := hexNumber first
    last := hexNumber (if last.isEmpty then first else last)
    step := if range.contains '~' then 2 else 1
    value := row.drop (range.length + 1) }

def covers (row : CharRow) (char : Char) : Bool :=
  row.first ≤ char.toNat && char.toNat ≤ row.last && (char.toNat - row.first) % row.step == 0

/-- The code points of the value, which dots divide, for the first character of
the row. The last of them rises along the row. -/
def codes (row : CharRow) (char : Char) : List Nat :=
  let rise := char.toNat - row.first
  let (current, earlier) := row.value.foldl
    (fun (state : List Char × List Nat) digit =>
      if digit = '.' then ([], hexNumber state.1.reverse :: state.2)
      else (digit :: state.1, state.2))
    ([], [])
  if row.value.isEmpty then [] else ((hexNumber current.reverse + rise) :: earlier).reverse

end CharRow

structure CharTable where
  rows : List CharRow

namespace CharTable

/-- Adds a character to the rows read so far, both of which are last first. -/
def addChar (rows : List (List Char)) (char : Char) : List (List Char) :=
  match rows with
  | [] => [[char]]
  | row :: earlier => if char = ' ' then [] :: rows else (char :: row) :: earlier

def ofLines (lines : List String) : CharTable :=
  ⟨lines.flatMap fun line =>
    ((line.toList.foldl addChar []).map fun row => CharRow.ofChars row.reverse).reverse⟩

def row? (table : CharTable) (char : Char) : Option CharRow :=
  table.rows.find? fun row => row.covers char

def covers (table : CharTable) (char : Char) : Bool := table.rows.any fun row => row.covers char

end CharTable

end TemplateServer.Text
