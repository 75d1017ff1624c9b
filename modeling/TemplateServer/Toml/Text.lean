import TemplateServer.Text.Hex

/-!
The four kinds of strings of TOML. Each reader starts behind the opening quotes
and gives the content with the number of characters taken, the closing quotes
included.
-/

namespace TemplateServer.Toml

def isPrintable (char : Char) : Bool := char = '\t' || (32 ≤ char.toNat && char.toNat ≠ 127)

def newlineLength : List Char → Nat
  | '\n' :: _ => 1
  | '\r' :: '\n' :: _ => 2
  | _ => 0

def numbered? (count : Nat) (input : List Char) : Option (Char × Nat) := do
  let digits := input.take count
  let values ← digits.mapM Text.hexDigit?
  let value := values.foldl (fun sum digit => sum * 16 + digit) 0
  if digits.length = count && value.isValidChar then some (Char.ofNat value, 1 + count) else none

def escape? : List Char → Option (Char × Nat)
  | [] => none
  | letter :: rest =>
      if letter = 'b' then some ('\x08', 1)
      else if letter = 't' then some ('\t', 1)
      else if letter = 'n' then some ('\n', 1)
      else if letter = 'f' then some ('\x0c', 1)
      else if letter = 'r' then some ('\r', 1)
      else if letter = 'e' then some ('\x1b', 1)
      else if letter = '"' || letter = '\\' then some (letter, 1)
      else if letter = 'x' then numbered? 2 rest
      else if letter = 'u' then numbered? 4 rest
      else if letter = 'U' then numbered? 8 rest
      else none

def basic? (input : List Char) : Option (List Char × Nat) :=
  match input with
  | [] => none
  | char :: rest =>
      if char = '"' then some ([], 1)
      else if char = '\\' then do
        let (escaped, taken) ← escape? rest
        let (content, length) ← basic? (rest.drop taken)
        some (escaped :: content, 1 + taken + length)
      else if isPrintable char then do
        let (content, length) ← basic? rest
        some (char :: content, 1 + length)
      else none
termination_by input.length
decreasing_by all_goals (simp only [List.length_cons, List.length_drop]; omega)

def literal? (input : List Char) : Option (List Char × Nat) :=
  let content := input.takeWhile (· != '\x27')
  if content.length < input.length && content.all isPrintable then
    some (content, content.length + 1)
  else none

def foldLength (input : List Char) : Nat :=
  match input with
  | [] => 0
  | char :: rest =>
      let newline := newlineLength input
      if char = ' ' || char = '\t' then 1 + foldLength rest
      else if newline ≠ 0 then newline + foldLength (rest.drop (newline - 1))
      else 0
termination_by input.length
decreasing_by all_goals (simp only [List.length_cons, List.length_drop]; omega)

/-- The length of what a backslash at the end of a line takes away; none if
something else follows it on its line. -/
def continuation? (input : List Char) : Option Nat :=
  let blanks := input.takeWhile fun char => char == ' ' || char == '\t'
  if newlineLength (input.drop blanks.length) = 0 then none else some (foldLength input)

/-- A string between tripled quotes of a kind, which may hold line breaks and up
to two of the quotes in a row. Line breaks stay as they are written. Escapes count
between double quotes. -/
def multiline? (quote : Char) (input : List Char) : Option (List Char × Nat) :=
  match input with
  | [] => none
  | char :: rest =>
      let newline := newlineLength input
      if char = quote then
        let quotes := (input.takeWhile (· == quote)).length
        if quotes < 3 then do
          let (content, length) ← multiline? quote rest
          some (char :: content, 1 + length)
        else if quotes ≤ 5 then some (List.replicate (quotes - 3) quote, quotes)
        else none
      else if quote = '"' && char = '\\' then
        match continuation? rest with
        | some taken => do
            let (content, length) ← multiline? quote (rest.drop taken)
            some (content, 1 + taken + length)
        | none => do
            let (escaped, taken) ← escape? rest
            let (content, length) ← multiline? quote (rest.drop taken)
            some (escaped :: content, 1 + taken + length)
      else if newline ≠ 0 then do
        let (content, length) ← multiline? quote (rest.drop (newline - 1))
        some (input.take newline ++ content, newline + length)
      else if isPrintable char then do
        let (content, length) ← multiline? quote rest
        some (char :: content, 1 + length)
      else none
termination_by input.length
decreasing_by all_goals (simp only [List.length_cons, List.length_drop]; omega)

/-- A string with its opening quotes. A line break right behind tripled quotes
does not count. -/
def string? (input : List Char) : Option (String × Nat) :=
  match input with
  | [] => none
  | quote :: rest =>
      let read? : Option (List Char × Nat) :=
        if [quote, quote].isPrefixOf rest then do
          let body := rest.drop 2
          let newline := newlineLength body
          let (content, length) ← multiline? quote (body.drop newline)
          some (content, 3 + newline + length)
        else if quote = '"' then (basic? rest).map fun (content, length) => (content, 1 + length)
        else (literal? rest).map fun (content, length) => (content, 1 + length)
      read?.map fun (content, length) => (String.ofList content, length)

def quotedKey? (input : List Char) : Option (String × Nat) :=
  match input with
  | '"' :: rest => (basic? rest).map fun (content, length) => (String.ofList content, 1 + length)
  | '\x27' :: rest =>
      (literal? rest).map fun (content, length) => (String.ofList content, 1 + length)
  | _ => none

end TemplateServer.Toml
