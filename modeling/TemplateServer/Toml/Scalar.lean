import TemplateServer.Json.Binary64
import TemplateServer.Text.Hex

/-!
The numbers and dates of TOML. Their syntax is checked, and that there is such a
number or date; they keep the text that they were written as.
-/

namespace TemplateServer.Toml

/-- Digits with single underscores between them. -/
def isDigitGroup (isDigit : Char → Bool) : List Char → Bool
  | [] => false
  | [digit] => isDigit digit
  | digit :: '_' :: next :: rest => isDigit digit && isDigitGroup isDigit (next :: rest)
  | digit :: rest => isDigit digit && isDigitGroup isDigit rest

def withoutSign (input : List Char) : List Char :=
  if input.head? = some '+' || input.head? = some '-' then input.tail else input

def isDecimal (input : List Char) : Bool :=
  isDigitGroup Char.isDigit input && (input.head? != some '0' || input.length == 1)

def digitsValue (base : Nat) (input : List Char) : Nat :=
  (input.filterMap Text.hexDigit?).foldl (fun sum digit => sum * base + digit) 0

def integerLimit : Nat := 0x100000000000000000000000000000000

def greatestNegative : Nat := 0x80000000000000000000000000000000

def isInteger (input : List Char) : Bool :=
  match input with
  | '0' :: 'x' :: digits =>
      isDigitGroup Text.isHexDigit digits && digitsValue 16 digits < integerLimit
  | '0' :: 'o' :: digits =>
      isDigitGroup (fun char => '0' ≤ char && char ≤ '7') digits &&
        digitsValue 8 digits < integerLimit
  | '0' :: 'b' :: digits =>
      isDigitGroup (fun char => char == '0' || char == '1') digits &&
        digitsValue 2 digits < integerLimit
  | _ =>
      let digits := withoutSign input
      let value := digitsValue 10 digits
      isDecimal digits &&
        (if input.head? = some '-' then value ≤ greatestNegative else value < integerLimit)

/-- Whether the number `digits · 10 ^ power` is in the range of floating-point
numbers. Far from the ends of the range the number of digits decides. -/
def isInRange (digits : Nat) (power : Int) : Bool :=
  let magnitude := power + (Nat.toDigits 10 digits).length
  if digits = 0 || magnitude < 300 then true
  else if 320 < magnitude then false
  else
    match power with
    | .ofNat up => (Json.Binary64.ofQuotient? (digits * Nat.pow 10 up) 1).isSome
    | .negSucc down => (Json.Binary64.ofQuotient? digits (Nat.pow 10 (down + 1))).isSome

def isFloat (input : List Char) : Bool :=
  let magnitude := withoutSign input
  let isMark (char : Char) : Bool := char == 'e' || char == 'E'
  let number := magnitude.takeWhile fun char => !isMark char
  let exponent := magnitude.drop number.length
  let whole := number.takeWhile (· != '.')
  let fraction := number.drop whole.length
  let places := (fraction.filter Char.isDigit).length
  let shift := digitsValue 10 (withoutSign exponent.tail)
  let power : Int := if exponent.tail.head? = some '-' then -(shift : Int) else shift
  magnitude == ['i', 'n', 'f'] || magnitude == ['n', 'a', 'n'] ||
    (isDecimal whole && (fraction.isEmpty || isDigitGroup Char.isDigit fraction.tail) &&
      (exponent.isEmpty || isDigitGroup Char.isDigit (withoutSign exponent.tail)) &&
      !(fraction.isEmpty && exponent.isEmpty) &&
      isInRange (digitsValue 10 (whole ++ fraction)) (power - places))

def fixedDigits? (count : Nat) (input : List Char) : Option Nat :=
  if input.length = count && input.all Char.isDigit then
    some (digitsValue 10 input)
  else none

def daysInMonth (year month : Nat) : Nat :=
  if month = 2 then
    if year % 4 = 0 && (year % 100 ≠ 0 || year % 400 = 0) then 29 else 28
  else if month = 4 || month = 6 || month = 9 || month = 11 then 30
  else 31

def isDate (input : List Char) : Bool :=
  match fixedDigits? 4 (input.take 4), fixedDigits? 2 ((input.drop 5).take 2),
    fixedDigits? 2 (input.drop 8) with
  | some year, some month, some day =>
      input[4]? == some '-' && input[7]? == some '-' && 1 ≤ month && month ≤ 12 && 1 ≤ day &&
        day ≤ daysInMonth year month
  | _, _, _ => false

def isClock (input : List Char) : Bool :=
  match fixedDigits? 2 (input.take 2), fixedDigits? 2 (input.drop 3) with
  | some hour, some minute => input[2]? == some ':' && hour ≤ 23 && minute ≤ 59
  | _, _ => false

def isTime (input : List Char) : Bool :=
  let fraction := input.drop 8
  isClock input ||
    match fixedDigits? 2 ((input.drop 6).take 2) with
    | some second =>
        isClock (input.take 5) && input[5]? == some ':' && second ≤ 60 &&
          (fraction.isEmpty ||
            (fraction.head? == some '.' && !fraction.tail.isEmpty &&
              fraction.tail.all Char.isDigit))
    | none => false

def isZonedTime (input : List Char) : Bool :=
  let isZone (char : Char) : Bool := char == 'Z' || char == 'z' || char == '+' || char == '-'
  let time := input.takeWhile fun char => !isZone char
  let zone := input.drop time.length
  isTime time &&
    (zone.isEmpty || zone == ['Z'] || zone == ['z'] ||
      ((zone.head? == some '+' || zone.head? == some '-') && isClock zone.tail))

def isDateTime (input : List Char) : Bool :=
  isDate input || isTime input ||
    (isDate (input.take 10) && isZonedTime (input.drop 11) &&
      (input[10]? == some 'T' || input[10]? == some 't' || input[10]? == some ' '))

def isScalar (input : List Char) : Bool := isInteger input || isFloat input || isDateTime input

def isScalarChar (char : Char) : Bool :=
  char.isAlphanum || char == '+' || char == '-' || char == '_' || char == '.' || char == ':'

/-- The number of characters of the number or date at the front. A date may go
on with a time behind one blank. -/
def scalarLength (input : List Char) : Nat :=
  let first := input.takeWhile isScalarChar
  let rest := input.drop first.length
  if isDate first && rest.head? = some ' ' && rest.tail.head?.any Char.isDigit then
    first.length + 1 + (rest.tail.takeWhile isScalarChar).length
  else first.length

end TemplateServer.Toml
