import TemplateServer.Json.Basic
import TemplateServer.Text.Hex

/-!
The tokens of JSON text. Each reader looks at the remaining characters and
gives what it read together with the number of characters that it took; what is
no token is a syntax error.
-/

namespace TemplateServer.Json

inductive Token where
  | openArray
  | closeArray
  | openObject
  | closeObject
  | comma
  | colon
  | literal (value : Json)
  | string (text : String)

def isBlank (char : Char) : Bool :=
  char == ' ' || char == '\n' || char == '\t' || char == '\r'

def codeUnit? : List Char → Option Nat
  | first :: second :: third :: fourth :: _ => do
      some ((← Text.hexDigit? first) * 4096 + (← Text.hexDigit? second) * 256 +
        (← Text.hexDigit? third) * 16 + (← Text.hexDigit? fourth))
  | _ => none

/-- The character of an escape by number, after its `\u`. A leading surrogate
needs the trailing one right behind it, and none stands alone. -/
def numberedChar? (input : List Char) : Option (Char × Nat) := do
  let unit ← codeUnit? input
  if 0xDC00 ≤ unit && unit ≤ 0xDFFF then none
  else if 0xD800 ≤ unit && unit ≤ 0xDBFF then
    if ['\\', 'u'].isPrefixOf (input.drop 4) then
      let low ← codeUnit? (input.drop 6)
      if 0xDC00 ≤ low && low ≤ 0xDFFF then
        some (Char.ofNat (0x10000 + (unit - 0xD800) * 0x400 + (low - 0xDC00)), 10)
      else none
    else none
  else some (Char.ofNat unit, 4)

def escapeChar? : List Char → Option (Char × Nat)
  | [] => none
  | letter :: rest =>
      if letter = 'u' then (numberedChar? rest).map fun (char, length) => (char, 1 + length)
      else if letter = '"' || letter = '\\' || letter = '/' then some (letter, 1)
      else if letter = 'b' then some ('\x08', 1)
      else if letter = 'f' then some ('\x0c', 1)
      else if letter = 'n' then some ('\n', 1)
      else if letter = 'r' then some ('\r', 1)
      else if letter = 't' then some ('\t', 1)
      else none

/-- The characters of a string after its opening quote; the length includes the
closing quote. Control characters have to be escaped. -/
def stringBody? (input : List Char) : Option (List Char × Nat) :=
  match input with
  | [] => none
  | char :: rest =>
      if char = '"' then some ([], 1)
      else if char = '\\' then do
        let (escaped, taken) ← escapeChar? rest
        let (body, length) ← stringBody? (rest.drop taken)
        some (escaped :: body, 1 + taken + length)
      else if char.toNat < 32 then none
      else do
        let (body, length) ← stringBody? rest
        some (char :: body, 1 + length)
termination_by input.length
decreasing_by all_goals (simp only [List.length_cons, List.length_drop]; omega)

def digitValue (char : Char) : Nat := char.toNat - 48

def digitRun (input : List Char) : List Char := input.takeWhile Char.isDigit

/-- Digits taken into a significand while it fits 64 bits, and the number of
digits left over. -/
def significand (start : Nat) : List Char → Nat × Nat
  | [] => (start, 0)
  | digit :: rest =>
      let next := start * 10 + digitValue digit
      if next < 0x10000000000000000 then significand next rest else (start, rest.length + 1)

def fractionPart? (input : List Char) : Option (List Char × Nat) :=
  if input.head? = some '.' then
    let digits := digitRun input.tail
    if digits.isEmpty then none else some (digits, 1 + digits.length)
  else some ([], 0)

def exponentPart? (input : List Char) : Option (Int × Nat) :=
  if input.head? = some 'e' || input.head? = some 'E' then
    let signed := input.tail
    let sign := if signed.head? = some '+' || signed.head? = some '-' then 1 else 0
    let digits := digitRun (signed.drop sign)
    if digits.isEmpty then none
    else
      let value := digits.foldl (fun sum digit => sum * 10 + digitValue digit) 0
      some (if signed.head? = some '-' then Int.negOfNat value else value, 1 + sign + digits.length)
  else some (0, 0)

/-- A whole number if it fits a word; minus zero has none. -/
def wholeNumber? (negative : Bool) (value : Nat) : Option Number :=
  if negative then
    if value = 0 || 0x8000000000000000 < value then none else some (.integer (Int.negOfNat value))
  else some (.integer value)

/-- A floating-point number; a zero significand ignores its exponent. -/
def floatNumber? (negative : Bool) (digits : Nat) (power : Int) : Option Number :=
  if digits = 0 then some (.float ⟨negative, 0, Binary64.leastExponent⟩)
  else (Binary64.ofDecimal? negative digits power).map .float

/-- A number without its sign. Leading zeros are refused. -/
def magnitude? (negative : Bool) (input : List Char) : Option (Number × Nat) := do
  let whole := digitRun input
  if whole.isEmpty || (whole.head? = some '0' && 1 < whole.length) then none
  else
    let (wholeDigits, dropped) := significand 0 whole
    let (places, pointLength) ← fractionPart? (input.drop whole.length)
    let (exponent, exponentLength) ← exponentPart? (input.drop (whole.length + pointLength))
    let length := whole.length + pointLength + exponentLength
    if pointLength = 0 && exponentLength = 0 && dropped = 0 then
      match wholeNumber? negative wholeDigits with
      | some value => some (value, length)
      | none => some (← floatNumber? negative wholeDigits 0, length)
    else
      let (digits, unused) := significand wholeDigits places
      let power : Int := dropped - Int.ofNat (places.length - unused) + exponent
      some (← floatNumber? negative digits power, length)

def number? (input : List Char) : Option (Number × Nat) :=
  if input.head? = some '-' then
    (magnitude? true input.tail).map fun (value, length) => (value, 1 + length)
  else magnitude? false input

def word? (word : String) (value : Json) (input : List Char) : Option (Token × Nat) :=
  if word.toList.isPrefixOf input then some (.literal value, word.length) else none

def mark? (char : Char) : Option Token :=
  if char = '[' then some .openArray
  else if char = ']' then some .closeArray
  else if char = '\x7b' then some .openObject
  else if char = '\x7d' then some .closeObject
  else if char = ',' then some .comma
  else if char = ':' then some .colon
  else none

def token? (input : List Char) : Option (Token × Nat) :=
  match input with
  | [] => none
  | char :: rest =>
      match mark? char with
      | some mark => some (mark, 1)
      | none =>
          if char = '"' then
            (stringBody? rest).map fun (body, length) => (.string (String.ofList body), 1 + length)
          else if char = 'n' then word? "null" .null input
          else if char = 't' then word? "true" (.bool true) input
          else if char = 'f' then word? "false" (.bool false) input
          else (number? input).map fun (value, length) => (.literal (.number value), length)

def tokens? (input : List Char) : Option (List Token) :=
  match input with
  | [] => some []
  | char :: rest =>
      if isBlank char then tokens? rest
      else do
        let (token, length) ← token? input
        let later ← tokens? (rest.drop (length - 1))
        some (token :: later)
termination_by input.length
decreasing_by all_goals (simp only [List.length_cons, List.length_drop]; omega)

end TemplateServer.Json
