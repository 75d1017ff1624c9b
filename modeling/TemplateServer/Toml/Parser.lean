import TemplateServer.Toml.Basic
import TemplateServer.Toml.Scalar
import TemplateServer.Toml.Text

/-!
Reading TOML. Each reader looks at the remaining characters and gives what it
read together with the number of characters that it took. Keys and nested values
have a greatest depth.
-/

namespace TemplateServer.Toml

def blankLength (input : List Char) : Nat :=
  (input.takeWhile fun char => char == ' ' || char == '\t').length

/-- The length of a comment up to the end of its line; none if it holds control
characters. -/
def commentLength? (input : List Char) : Option Nat :=
  if input.head? = some '#' then
    let content := input.takeWhile isPrintable
    let rest := input.drop content.length
    if rest.isEmpty || newlineLength rest ≠ 0 then some content.length else none
  else some 0

def gapLength? (input : List Char) : Option Nat :=
  match input with
  | [] => some 0
  | char :: rest => do
      let newline := newlineLength input
      if char = ' ' || char = '\t' then some (1 + (← gapLength? rest))
      else if newline ≠ 0 then some (newline + (← gapLength? (rest.drop (newline - 1))))
      else if char = '#' then
        let taken ← commentLength? input
        some (taken + (← gapLength? (rest.drop (taken - 1))))
      else some 0
termination_by input.length
decreasing_by all_goals (simp only [List.length_cons, List.length_drop]; omega)

def isBareChar (char : Char) : Bool := char.isAlphanum || char == '_' || char == '-'

def simpleKey? (input : List Char) : Option (String × Nat) :=
  let bare := input.takeWhile isBareChar
  if bare.isEmpty then quotedKey? input else some (String.ofList bare, bare.length)

/-- A mark at some place leaves less behind it than there was. -/
theorem length_behind_lt {input : List Char} {count : Nat} {mark : Char}
    (found : (input.drop count).head? = some mark) :
    (input.drop count).tail.length < input.length := by
  cases equation : input.drop count with
  | nil => simp [equation] at found
  | cons first rest =>
      have bound : (first :: rest).length ≤ input.length := by
        rw [← equation, List.length_drop]; omega
      simp only [List.tail_cons, List.length_cons] at bound ⊢
      omega

def dottedNames? (input : List Char) : Option (List String × Nat) := do
  let blanks := blankLength input
  let (name, length) ← simpleKey? (input.drop blanks)
  let taken := blanks + length + blankLength (input.drop (blanks + length))
  if _dotted : (input.drop taken).head? = some '.' then
    let (names, more) ← dottedNames? (input.drop taken).tail
    some (name :: names, taken + 1 + more)
  else some ([name], taken)
termination_by input.length
decreasing_by exact length_behind_lt _dotted

/-- How many names a key may have, and how many values may be open in each
other. -/
def greatestDepth : Nat := 80

def key? (input : List Char) : Option (List String × Nat) := do
  let (names, length) ← dottedNames? input
  if greatestDepth < names.length then none else some (names, length)

def plainValue? (input : List Char) : Option (Toml × Nat) :=
  let source := input.take (scalarLength input)
  if source = ['t', 'r', 'u', 'e'] then some (.boolean true, 4)
  else if source = ['f', 'a', 'l', 's', 'e'] then some (.boolean false, 5)
  else if isScalar source then some (.scalar (String.ofList source), source.length)
  else none

mutual

def value? (room : Nat) (input : List Char) : Option (Toml × Nat) := do
  let front := input.head?
  if front = some '"' || front = some '\x27' then
    (string? input).map fun (content, length) => (.text content, length)
  else if _listed : (input.drop 0).head? = some '[' then
    if room = 0 then none
    else
      let (items, length) ← items? (room - 1) (input.drop 0).tail
      some (.array items, 1 + length)
  else if _braced : (input.drop 0).head? = some '\x7b' then
    if room = 0 then none
    else
      let (entries, length) ← members? (room - 1) [] (input.drop 0).tail
      some (.table .inline entries, 1 + length)
  else plainValue? input
termination_by 2 * input.length
decreasing_by
  · have := length_behind_lt _listed; omega
  · have := length_behind_lt _braced; omega

/-- The items of an array up to its closing bracket. The last one may have a
comma. -/
def items? (room : Nat) (input : List Char) : Option (List Toml × Nat) := do
  let gap ← gapLength? input
  if (input.drop gap).head? = some ']' then some ([], gap + 1)
  else
    let (item, length) ← value? room (input.drop gap)
    let behind ← gapLength? (input.drop (gap + length))
    let taken := gap + length + behind
    if separated : (input.drop taken).head? = some ',' then
      let (items, more) ← items? room (input.drop taken).tail
      some (item :: items, taken + 1 + more)
    else if (input.drop taken).head? = some ']' then some ([item], taken + 1)
    else none
termination_by 2 * input.length + 1
decreasing_by
  · simp only [List.length_drop]; omega
  · have shorter := length_behind_lt separated
    simp +zetaDelta only at shorter ⊢
    omega

/-- The entries of a table in braces, added to those in front of them. The last
one may have a comma. -/
def members? (room : Nat) (entries : Entries) (input : List Char) : Option (Entries × Nat) := do
  let gap ← gapLength? input
  if (input.drop gap).head? = some '\x7d' then some (entries, gap + 1)
  else
    let (names, length) ← key? (input.drop gap)
    let equals := gap + length
    if (input.drop equals).head? = some '=' then
      let start := equals + 1 + blankLength (input.drop (equals + 1))
      let (value, size) ← value? room (input.drop start)
      let behind ← gapLength? (input.drop (start + size))
      let taken := start + size + behind
      let defined ← define? entries value names
      if separated : (input.drop taken).head? = some ',' then
        let (all, more) ← members? room defined (input.drop taken).tail
        some (all, taken + 1 + more)
      else if (input.drop taken).head? = some '\x7d' then some (defined, taken + 1)
      else none
    else none
termination_by 2 * input.length + 1
decreasing_by
  · simp only [List.length_drop]; omega
  · have shorter := length_behind_lt separated
    simp +zetaDelta only at shorter ⊢
    omega

end

structure Draft where
  entries : Entries
  header : List String

def header? (draft : Draft) (repeated : Bool) (input : List Char) : Option (Draft × Nat) := do
  let (names, length) ← key? input
  let close := if repeated then [']', ']'] else [']']
  if close.isPrefixOf (input.drop length) then
    let last ← names.getLast?
    let change := if repeated then openNext? last else openTable? last
    let entries ← changeAt? change draft.entries names.dropLast
    some (⟨entries, names⟩, length + close.length)
  else none

def assignment? (draft : Draft) (input : List Char) : Option (Draft × Nat) := do
  let (names, length) ← key? input
  if (input.drop length).head? = some '=' then
    let start := length + 1 + blankLength (input.drop (length + 1))
    let (value, size) ← value? greatestDepth (input.drop start)
    let entries ← changeAt? (fun inner => define? inner value names) draft.entries draft.header
    some ({ draft with entries := entries }, start + size)
  else none

def statement? (draft : Draft) (input : List Char) : Option (Draft × Nat) :=
  match input with
  | [] => some (draft, 0)
  | '#' :: _ => some (draft, 0)
  | '\n' :: _ => some (draft, 0)
  | '\r' :: _ => some (draft, 0)
  | '[' :: '[' :: rest =>
      (header? draft true rest).map fun (next, length) => (next, 2 + length)
  | '[' :: rest => (header? draft false rest).map fun (next, length) => (next, 1 + length)
  | _ => assignment? draft input

def lines? (draft : Draft) (input : List Char) : Option Draft := do
  let blanks := blankLength input
  let (next, length) ← statement? draft (input.drop blanks)
  let stated := blanks + length + blankLength (input.drop (blanks + length))
  let taken := stated + (← commentLength? (input.drop stated))
  let newline := newlineLength (input.drop taken)
  if input.length ≤ taken then some next
  else if newline = 0 then none
  else lines? next (input.drop (taken + newline))
termination_by input.length
decreasing_by simp +zetaDelta only [List.length_drop] at *; omega

/-- The entries of a document; none if it is not valid. A byte order mark in
front does not count. -/
def parse? (text : String) : Option Entries :=
  let chars := text.toList
  let input := if chars.head? = some '\uFEFF' then chars.tail else chars
  (lines? ⟨[], []⟩ input).map (·.entries)

end TemplateServer.Toml
