/-!
International labels in ASCII and back. The ASCII characters of a label come first; the
others follow in rising order, each as the distance from the one before it, in
digits whose weights adapt to the distances seen so far.
-/

namespace TemplateServer.Url.Punycode

def base : Nat := 36

def leastThreshold : Nat := 1

def greatestThreshold : Nat := 26

/-- A digit: the letters from `a` on, then `0` to `9`. -/
def digitChar (digit : Nat) : Char := Char.ofNat (if digit < 26 then 97 + digit else 22 + digit)

def threshold (bias weight : Nat) : Nat :=
  min greatestThreshold (max leastThreshold (weight - bias))

theorem threshold_bounds (bias weight : Nat) :
    1 ≤ threshold bias weight ∧ threshold bias weight ≤ 26 := by
  simp only [threshold, greatestThreshold, leastThreshold]
  omega

def digits (bias weight distance : Nat) : List Char :=
  let limit := threshold bias weight
  if distance < limit then [digitChar distance]
  else
    digitChar (limit + (distance - limit) % (base - limit)) ::
      digits bias (weight + base) ((distance - limit) / (base - limit))
termination_by distance
decreasing_by
  have bounds := threshold_bounds bias weight
  have smaller : (distance - threshold bias weight) / (base - threshold bias weight) ≤
      distance - threshold bias weight := Nat.div_le_self _ _
  omega

def biasOf (weight distance : Nat) : Nat :=
  if 455 < distance then biasOf (weight + base) (distance / 35)
  else weight + base * distance / (distance + 38)
termination_by distance
decreasing_by omega

def adapted (distance count : Nat) (isFirst : Bool) : Nat :=
  let scaled := if isFirst then distance / 700 else distance / 2
  biasOf 0 (scaled + scaled / count)

/-- An encoding under way: the digits so far, the distance since the last of
them, the bias, and the number of characters written. -/
structure Encoder where
  output : List Char
  distance : Nat
  bias : Nat
  written : Nat

namespace Encoder

/-- Passes one character of the label, where `code` is the one to be written and
`basic` is the number of ASCII characters. -/
def pass (basic code : Nat) (encoder : Encoder) (char : Char) : Encoder :=
  if char.toNat < code then { encoder with distance := encoder.distance + 1 }
  else if char.toNat = code then
    { output := encoder.output ++ digits encoder.bias base encoder.distance
      distance := 0
      bias := adapted encoder.distance (encoder.written + 1) (encoder.written = basic)
      written := encoder.written + 1 }
  else encoder

/-- Writes the characters with the given codes, which are in rising order and
not below `least`. -/
def writeCodes (label : List Char) (basic : Nat) (encoder : Encoder) (least : Nat) :
    List Nat → Encoder
  | [] => encoder
  | code :: later =>
      let reached :=
        { encoder with distance := encoder.distance + (code - least) * (encoder.written + 1) }
      let passed := label.foldl (pass basic code) reached
      writeCodes label basic { passed with distance := passed.distance + 1 } (code + 1) later

end Encoder

def encode (label : List Char) : List Char :=
  let basic := label.filter fun char => char.toNat < 0x80
  let others := (label.map Char.toNat).filter fun code => 0x80 ≤ code
  let codes := (others.mergeSort fun left right => decide (left ≤ right)).eraseDups
  let start : Encoder := ⟨[], 0, 72, basic.length⟩
  let separator := if basic.isEmpty then [] else ['-']
  basic ++ separator ++ (start.writeCodes label basic.length 0x80 codes).output

def digitValue? (char : Char) : Option Nat :=
  if 'a' ≤ char && char ≤ 'z' then some (char.toNat - 97)
  else if '0' ≤ char && char ≤ '9' then some (char.toNat - 22)
  else none

def ceiling : Nat := 0x100000000

/-- Adds a distance to a sum. The value of the next digit is multiplied by
`scale`. The digits behind the distance are given back. -/
def addDistance? (bias weight scale sum : Nat) : List Char → Option (Nat × List Char)
  | [] => none
  | char :: rest => do
      let digit ← digitValue? char
      let limit := threshold bias weight
      let total := sum + digit * scale
      if ceiling ≤ total then none
      else if digit < limit then some (total, rest)
      else if ceiling ≤ scale * (base - limit) then none
      else addDistance? bias (weight + base) (scale * (base - limit)) total rest

theorem add_distance_shorter {bias weight scale sum : Nat} {input : List Char}
    {found : Nat × List Char} (read : addDistance? bias weight scale sum input = some found) :
    found.2.length < input.length := by
  induction input generalizing weight scale sum with
  | nil => simp [addDistance?] at read
  | cons char rest hypothesis =>
      simp only [addDistance?] at read
      cases known : digitValue? char with
      | none => simp [known] at read
      | some digit =>
          simp only [known, Option.bind_eq_bind, Option.bind_some] at read
          split at read
          · cases read
          · split at read
            · cases read
              simp
            · split at read
              · cases read
              · have shorter := hypothesis read
                simp only [List.length_cons]
                omega

/-- Puts characters into a label. The next one has at least the given code, and
the place of the last one is `place - 1`. -/
def insertCoded? (bias code place : Nat) (label : List Char) (input : List Char) :
    Option (List Char) :=
  match input with
  | [] => some label
  | digit :: digits =>
      match _read : addDistance? bias base 1 place (digit :: digits) with
      | none => none
      | some (total, rest) =>
          let count := label.length + 1
          let reached := code + total / count
          let target := total % count
          if reached.isValidChar then
            insertCoded? (adapted (total - place) count (place == 0)) reached (target + 1)
              (label.take target ++ Char.ofNat reached :: label.drop target) rest
          else none
termination_by input.length
decreasing_by exact add_distance_shorter _read

/-- The label of an ASCII form, where the last hyphen divides the ASCII
characters from the digits. -/
def decode? (input : List Char) : Option (List Char) :=
  let digits := (input.reverse.takeWhile (· != '-')).reverse
  let basic := input.take (input.length - digits.length - 1)
  if basic.isEmpty then insertCoded? 72 0x80 0 [] input
  else insertCoded? 72 0x80 0 basic digits

end TemplateServer.Url.Punycode
