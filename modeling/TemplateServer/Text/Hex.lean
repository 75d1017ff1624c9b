/-!
Hexadecimal digits in either case.
-/

namespace TemplateServer.Text

def hexDigit? (char : Char) : Option Nat :=
  if '0' ≤ char && char ≤ '9' then some (char.toNat - 48)
  else if 'a' ≤ char && char ≤ 'f' then some (char.toNat - 87)
  else if 'A' ≤ char && char ≤ 'F' then some (char.toNat - 55)
  else none

def isHexDigit (char : Char) : Bool := (hexDigit? char).isSome

/-- The number that digits spell. What is no digit counts as zero. -/
def hexNumber (digits : List Char) : Nat :=
  digits.foldl (fun sum char => sum * 16 + (hexDigit? char).getD 0) 0

end TemplateServer.Text
