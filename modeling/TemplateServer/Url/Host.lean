import TemplateServer.Text.Split
import TemplateServer.Url.Domain.Basic
import TemplateServer.Url.Percent

/-!
Hosts of addresses: domain names, IPv4 numbers in decimal, octal or hexadecimal
parts, and IPv6 literals in square brackets. Each reader gives the normal text
of the host.
-/

namespace TemplateServer.Url

def digitsValue? (base : Nat) (digits : List Char) : Option Nat :=
  digits.foldlM
    (fun sum char => do
      let digit ← Text.hexDigit? char
      if digit < base then some (sum * base + digit) else none)
    0

def addressPart? (part : String) : Option Nat :=
  match part.toList with
  | [] => none
  | '0' :: 'x' :: digits => digitsValue? 16 digits
  | '0' :: 'X' :: digits => digitsValue? 16 digits
  | '0' :: first :: digits => digitsValue? 8 (first :: digits)
  | digits => digitsValue? 10 digits

def dottedParts (name : String) : List String :=
  let parts := Text.split '.' name
  if 1 < parts.length && parts.getLast? = some "" then parts.dropLast else parts

def endsInNumber (name : String) : Bool :=
  match (dottedParts name).getLast? with
  | none => false
  | some last =>
      (last != "" && last.toList.all Char.isDigit) || (addressPart? last).isSome

/-- The four bytes of an IPv4 address; its last part may stand for several. -/
def addressBytes? (name : String) : Option (List Nat) := do
  let numbers ← (dottedParts name).mapM addressPart?
  let last ← numbers.getLast?
  let leading := numbers.dropLast
  if 3 < leading.length || leading.any (255 < ·) ||
      Nat.pow 256 (4 - leading.length) ≤ last then none
  else
    let width := 4 - leading.length
    some
      (leading ++ (List.range width).map fun place => last / Nat.pow 256 (width - 1 - place) % 256)

def addressGroup? (group : String) : Option Nat :=
  if group.length = 0 || 4 < group.length then none else digitsValue? 16 group.toList

def dottedGroups? (text : String) : Option (List Nat) := do
  let parts := Text.split '.' text
  let numbers ← parts.mapM fun part =>
    if part = "" || 3 < part.length || (1 < part.length && part.toList.head? = some '0') then none
    else digitsValue? 10 part.toList
  match numbers with
  | [first, second, third, fourth] =>
      if numbers.all (· < 256) then some [first * 256 + second, third * 256 + fourth] else none
  | _ => none

def addressGroups? (parts : List String) : Option (List Nat) :=
  match parts with
  | [] => some []
  | [last] =>
      if last.toList.contains '.' then dottedGroups? last
      else (addressGroup? last).map fun group => [group]
  | part :: rest => do
      let group ← addressGroup? part
      let groups ← addressGroups? rest
      some (group :: groups)

def atDoubleColon : List Char → List Char × Option (List Char)
  | ':' :: ':' :: rest => ([], some rest)
  | char :: rest =>
      let (front, back) := atDoubleColon rest
      (char :: front, back)
  | [] => ([], none)

/-- The eight groups of an IPv6 address; a double colon stands for zeros. -/
def longAddress? (text : List Char) : Option (List Nat) := do
  let parts (chars : List Char) : List String :=
    if chars.isEmpty then [] else Text.split ':' (String.ofList chars)
  match atDoubleColon text with
  | (whole, none) =>
      let groups ← addressGroups? (parts whole)
      if groups.length = 8 then some groups else none
  | (front, some back) =>
      let leading ← (parts front).mapM addressGroup?
      let trailing ← addressGroups? (parts back)
      let count := leading.length + trailing.length
      if count < 8 then some (leading ++ List.replicate (8 - count) 0 ++ trailing) else none

/-- The start and length of the first longest run of two or more zeros. -/
def zeroRun (groups : List Nat) : Nat × Nat :=
  (List.range 8).foldl
    (fun best start =>
      let length := ((groups.drop start).takeWhile (· == 0)).length
      if best.2 < length && 1 < length then (start, length) else best)
    (0, 0)

def longAddressText (groups : List Nat) : String :=
  let shown (part : List Nat) : String :=
    String.intercalate ":" (part.map fun group => String.ofList (Nat.toDigits 16 group))
  let (start, length) := zeroRun groups
  if length = 0 then shown groups
  else shown (groups.take start) ++ "::" ++ shown (groups.drop (start + length))

/-- Groups without a double colon whose last ones are dotted. Zeros follow them
where there are fewer than eight. -/
def dottedAddress? (text : List Char) : Option (List Nat) := do
  let parts := Text.split ':' (String.ofList text)
  let groups ← addressGroups? parts
  if text.contains '.' && groups.length ≤ 8 then
    some (groups ++ List.replicate (8 - groups.length) 0)
  else none

def bracketedHost? (name : String) : Option String :=
  match name.toList with
  | '[' :: rest =>
      if rest.getLast? = some ']' then
        ((longAddress? rest.dropLast).or (dottedAddress? rest.dropLast)).map fun groups =>
          "[" ++ longAddressText groups ++ "]"
      else none
  | _ => none

def isForbiddenInHost (char : Char) : Bool :=
  char.toNat = 0 || char = '\t' || char = '\n' || char = '\r' || char = ' ' || char = '#' ||
    char = '/' || char = ':' || char = '<' || char = '>' || char = '?' || char = '@' ||
    char = '[' || char = '\\' || char = ']' || char = '^' || char = '|'

/-- The host of an address whose scheme has a known meaning. Names are in ASCII
lower case and hold no escapes. -/
def namedHost? (name : String) : Option String :=
  if name.toList.head? = some '[' then bracketedHost? name
  else do
    let domain ← Domain.ascii? (unescaped name).toList
    if domain = "" then none
    else if endsInNumber domain then
      (addressBytes? domain).map fun bytes => String.intercalate "." (bytes.map toString)
    else some domain

def plainHost? (name : String) : Option String :=
  if name.toList.head? = some '[' then bracketedHost? name
  else if name.toList.any isForbiddenInHost then none
  else some (escaped [] name)

end TemplateServer.Url
