/-!
Binary floating-point numbers with 53 significant bits, as exact values. A
decimal number is read with one rounding for its digits and one for its power
of ten; it is written with the fewest digits that read back as the same value.
-/

namespace TemplateServer.Json

/-- The value `± significand · 2 ^ exponent`. The significand is below `2 ^ 53`,
and it is at least `2 ^ 52` unless the exponent is the least one. -/
structure Binary64 where
  negative : Bool
  significand : Nat
  exponent : Int
  deriving DecidableEq

namespace Binary64

def leastExponent : Int := -1074

def greatestExponent : Int := 971

def leastNormal : Nat := 0x10000000000000

/-- The quotient `numerator / denominator` to the nearest whole number, a half
to the even neighbour. -/
def roundedQuotient (numerator denominator : Nat) : Nat :=
  let quotient := numerator / denominator
  let twice := 2 * (numerator % denominator)
  if twice < denominator then quotient
  else if denominator < twice then quotient + 1
  else if quotient % 2 = 0 then quotient else quotient + 1

/-- The fraction `numerator / denominator / 2 ^ exponent` as numerator and
denominator. -/
def scaled (numerator denominator : Nat) (exponent : Int) : Nat × Nat :=
  match exponent with
  | .ofNat power => (numerator, denominator * Nat.pow 2 power)
  | .negSucc power => (numerator * Nat.pow 2 (power + 1), denominator)

def ofQuotient? (numerator denominator : Nat) : Option Binary64 :=
  if numerator = 0 then some ⟨false, 0, leastExponent⟩
  else
    let estimate : Int := (Nat.log2 numerator : Int) - Nat.log2 denominator - 52
    let trial := scaled numerator denominator estimate
    let fitting := if trial.1 < leastNormal * trial.2 then estimate - 1 else estimate
    let exponent := max fitting leastExponent
    let fraction := scaled numerator denominator exponent
    let rounded := roundedQuotient fraction.1 fraction.2
    let value : Binary64 :=
      if rounded = 2 * leastNormal then ⟨false, leastNormal, exponent + 1⟩
      else ⟨false, rounded, exponent⟩
    if greatestExponent < value.exponent then none else some value

def fraction (value : Binary64) : Nat × Nat :=
  match value.exponent with
  | .ofNat power => (value.significand * Nat.pow 2 power, 1)
  | .negSucc power => (value.significand, Nat.pow 2 (power + 1))

def times? (left right : Binary64) : Option Binary64 :=
  ofQuotient? (left.fraction.1 * right.fraction.1) (left.fraction.2 * right.fraction.2)

def over? (left right : Binary64) : Option Binary64 :=
  ofQuotient? (left.fraction.1 * right.fraction.2) (left.fraction.2 * right.fraction.1)

/-- Division by a power of ten. Powers that have no magnitude of their own are
taken in steps of `10 ^ 308`. -/
def dividedByPower? (value : Binary64) (power : Nat) : Option Binary64 :=
  if power ≤ 308 then do over? value (← ofQuotient? (Nat.pow 10 power) 1)
  else if value.significand = 0 then some value
  else do dividedByPower? (← over? value (← ofQuotient? (Nat.pow 10 308) 1)) (power - 308)
termination_by power

/-- The number `± digits · 10 ^ power`; none if it is out of range. -/
def ofDecimal? (negative : Bool) (digits : Nat) (power : Int) : Option Binary64 := do
  let whole ← ofQuotient? digits 1
  let magnitude ←
    match power with
    | .ofNat up =>
        if whole.significand = 0 then some whole
        else if up ≤ 308 then times? whole (← ofQuotient? (Nat.pow 10 up) 1)
        else none
    | .negSucc down => dividedByPower? whole (down + 1)
  some { magnitude with negative := negative }

/-- Whether the decimal `digits · 10 ^ power` reads as this magnitude: it lies
between the midpoints to the two neighbours, which count if the significand is
even. -/
def readsAs (value : Binary64) (digits : Nat) (power : Int) : Bool :=
  let quarter := scaled 1 1 (value.exponent - 2)
  let decimal : Nat × Nat :=
    match power with
    | .ofNat up => (digits * Nat.pow 10 up, 1)
    | .negSucc down => (digits, Nat.pow 10 (down + 1))
  let position := decimal.1 * quarter.1
  let unit := decimal.2 * quarter.2
  let below :=
    if value.significand = leastNormal && leastExponent < value.exponent then 1 else 2
  let low := (4 * value.significand - below) * unit
  let high := (4 * value.significand + 2) * unit
  if value.significand % 2 = 0 then low ≤ position && position ≤ high
  else low < position && position < high

/-- The least power of ten above a magnitude that is not zero. -/
def decimalMagnitude (value : Binary64) : Int :=
  let parts := value.fraction
  let whole := parts.1 / parts.2
  if whole = 0 then
    let zeros := (List.range 400).takeWhile fun count =>
      parts.1 * Nat.pow 10 (count + 1) < parts.2
    Int.negOfNat zeros.length
  else Int.ofNat (Nat.toDigits 10 whole).length

def decimalOfLength? (value : Binary64) (length : Nat) : Option (Nat × Int) :=
  let power := decimalMagnitude value - length
  let parts := value.fraction
  let grid : Nat × Nat :=
    match power with
    | .ofNat up => (parts.1, parts.2 * Nat.pow 10 up)
    | .negSucc down => (parts.1 * Nat.pow 10 (down + 1), parts.2)
  let lower := grid.1 / grid.2
  let nearest := roundedQuotient grid.1 grid.2
  let farther := if nearest = lower then lower + 1 else lower
  if readsAs value nearest power then some (nearest, power)
  else if readsAs value farther power then some (farther, power)
  else none

def shortest (value : Binary64) : Nat × Int :=
  if value.significand = 0 then (0, 0)
  else ((List.range 17).findSome? (fun count => decimalOfLength? value (count + 1))).getD (0, 0)

/-- The digits of the shortest decimal, without zeros at their end, and the
power of ten that the first of them counts. -/
def scientific (value : Binary64) : List Char × Int :=
  let (digits, power) := shortest value
  let shown := Nat.toDigits 10 digits
  let significant := (shown.reverse.dropWhile (· == '0')).reverse
  (if significant.isEmpty then ['0'] else significant, power + (shown.length - 1 : Nat))

def isPositional (exponent : Int) : Bool := decide (-5 ≤ exponent ∧ exponent ≤ 15)

def positional (digits : List Char) : Int → List Char
  | .ofNat places =>
      let whole := digits.take (places + 1)
      let rest := digits.drop (places + 1)
      whole ++ List.replicate (places + 1 - whole.length) '0' ++ '.' ::
        (if rest.isEmpty then ['0'] else rest)
  | .negSucc zeros => '0' :: '.' :: List.replicate zeros '0' ++ digits

/-- One digit in front of the point, which stands only between digits, and a
signed exponent. -/
def exponential (digits : List Char) (exponent : Int) : List Char :=
  let rest := digits.drop 1
  digits.take 1 ++ (if rest.isEmpty then [] else '.' :: rest) ++
    ['e', if exponent < 0 then '-' else '+'] ++ Nat.toDigits 10 exponent.natAbs

/-- The fewest digits that read back, positional from `0.00001` up to below
`10 ^ 16` and with an exponent elsewhere. -/
def text (value : Binary64) : String :=
  let (digits, exponent) := scientific value
  let magnitude :=
    if isPositional exponent then positional digits exponent else exponential digits exponent
  String.ofList (if value.negative then '-' :: magnitude else magnitude)

end Binary64

end TemplateServer.Json
