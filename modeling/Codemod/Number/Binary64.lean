/-!
# Double-precision numbers and their shortest text

A finite double is a sign, a mantissa `m` and an exponent `q` with the value
`m · 2 ^ q`; a normal mantissa has 53 bits and the least exponent is `-1074`.
A decimal or a ratio is rounded to the nearest double, a tie going to the even
mantissa. The text of a double has the fewest significant digits that round
back to it, and of those the nearest; it is positional while the decimal point
lies within 21 digits after the first and six zeros before it.

All arithmetic here is on exact naturals.
-/
namespace Codemod

/-- A double-precision number. -/
inductive Binary64 where
  | finite (negative : Bool) (mantissa : Nat) (exponent : Int)
  | infinite (negative : Bool)
  | nan
  deriving DecidableEq, Repr

namespace Binary64

/-- The quotient rounded to the nearest natural, a tie going to the even one. -/
def roundHalfEven (num den : Nat) : Nat :=
  let quotient := num / den
  let twice := 2 * (num % den)
  if twice > den || (twice == den && quotient % 2 == 1) then quotient + 1 else quotient

/-- The numerator and denominator of `num / den / 2 ^ q`. -/
def scaleDown (num den : Nat) (q : Int) : Nat × Nat :=
  if q ≥ 0 then (num, den * Nat.pow 2 q.toNat) else (num * Nat.pow 2 (-q).toNat, den)

/-- The double nearest to a ratio of naturals. -/
def ofRatio (negative : Bool) (num den : Nat) : Binary64 :=
  if num = 0 || den = 0 then .finite negative 0 (-1074)
  else
    let low : Int := (Nat.log2 num : Int) - (Nat.log2 den : Int) - 53
    let (n, d) := scaleDown num den low
    let fitted := if n ≥ Nat.pow 2 53 * d then low + 1 else low
    let q := if fitted < -1074 then -1074 else fitted
    let (n, d) := scaleDown num den q
    let m := roundHalfEven n d
    let (m, q) := if m = Nat.pow 2 53 then (Nat.pow 2 52, q + 1) else (m, q)
    if q > 971 then .infinite negative else .finite negative m q

/-- The double nearest to `digits · 10 ^ exponent`. Ten binary digits are worth more than three decimal
ones, and three are worth less than one; what by that is far out of the range of doubles is not computed. -/
def ofDecimal (negative : Bool) (digits : Nat) (exponent : Int) : Binary64 :=
  if digits = 0 then .finite negative 0 (-1074)
  else if exponent + (Nat.log2 digits * 3 / 10 : Nat) > 400 then .infinite negative
  else if exponent + (Nat.log2 digits / 3 + 1 : Nat) < -400 then .finite negative 0 (-1074)
  else if exponent ≥ 0 then ofRatio negative (digits * Nat.pow 10 exponent.toNat) 1
  else ofRatio negative digits (Nat.pow 10 (-exponent).toNat)

/-- The double nearest to an integer. -/
def ofInt (n : Int) : Binary64 :=
  ofRatio (n < 0) n.natAbs 1

/-- The value of a finite double as an integer number of units of the least exponent given. -/
def scaled (negative : Bool) (mantissa : Nat) (exponent least : Int) : Int :=
  let magnitude : Int := (mantissa * Nat.pow 2 (exponent - least).toNat : Nat)
  if negative then -magnitude else magnitude

/-- The double nearest to a sum. -/
def add : Binary64 → Binary64 → Binary64
  | .nan, _ | _, .nan => .nan
  | .infinite a, .infinite b => if a = b then .infinite a else .nan
  | .infinite a, _ | _, .infinite a => .infinite a
  | .finite a m p, .finite b n q =>
    let least := min p q
    let sum := scaled a m p least + scaled b n q least
    let (num, den) := if least ≥ 0 then (sum.natAbs * Nat.pow 2 least.toNat, 1)
      else (sum.natAbs, Nat.pow 2 (-least).toNat)
    ofRatio (sum < 0) num den

/-- Whether the first number is at most the second. -/
def atMost : Binary64 → Binary64 → Bool
  | .nan, _ | _, .nan => false
  | .infinite a, .infinite b => a || !b
  | .infinite a, _ => a
  | _, .infinite b => !b
  | .finite a m p, .finite b n q =>
    let least := min p q
    scaled a m p least ≤ scaled b n q least

/-- The number with the other sign. -/
def neg : Binary64 → Binary64
  | .nan => .nan
  | .infinite negative => .infinite (!negative)
  | .finite negative m q => .finite (!negative) m q

/-- Whether the number is zero, of either sign. -/
def isZero : Binary64 → Bool
  | .finite _ m _ => m == 0
  | _ => false

/-- The integer that a finite double stands for, when it is one. -/
def toInt? : Binary64 → Option Int
  | .finite negative m q =>
    let magnitude : Option Nat :=
      if q ≥ 0 then some (m * Nat.pow 2 q.toNat)
      else if m % Nat.pow 2 (-q).toNat = 0 then some (m / Nat.pow 2 (-q).toNat)
      else none
    magnitude.map fun n => if negative then -(n : Int) else n
  | _ => none

/-- The greatest whole number up to which all whole numbers are told apart. -/
def maxSafe : Nat :=
  Nat.pow 2 53 - 1

/-- The integer that a double stands for, when it is told apart from all others. -/
def safe? (number : Binary64) : Option Int :=
  number.toInt?.filter fun n => n.natAbs ≤ maxSafe

/-- Whether `num / den` rounds to the double `m · 2 ^ q`. -/
def roundsTo (m : Nat) (q : Int) (num den : Nat) : Bool :=
  ofRatio false num den == .finite false m q

/-- The digits and decimal exponent of the shortest decimal that rounds to
`m · 2 ^ q`, tried with `places` digits and more until `fuel` runs out. -/
def shortestFrom (m : Nat) (q : Int) (num den : Nat) (first : Int) (places : Nat) :
    Nat → Nat × Int
  | 0 => (m, q)
  | fuel + 1 =>
    let unit : Int := first - places
    let (n, d) :=
      if unit ≥ 0 then (num, den * Nat.pow 10 unit.toNat) else (num * Nat.pow 10 (-unit).toNat, den)
    let below := n / d
    let above := below + 1
    let fits (digits : Nat) : Bool :=
      if unit ≥ 0 then roundsTo m q (digits * Nat.pow 10 unit.toNat) 1
      else roundsTo m q digits (Nat.pow 10 (-unit).toNat)
    let nearer := if 2 * (n % d) < d || (2 * (n % d) == d && below % 2 == 0) then below else above
    let further := if nearer = below then above else below
    if fits nearer then (nearer, unit)
    else if fits further then (further, unit)
    else shortestFrom m q num den first (places + 1) fuel

/-- The least `e` with `num / den < 10 ^ e`, searched upwards from `start`. -/
def decimalPoint (num den : Nat) (start : Int) : Nat → Int
  | 0 => start
  | fuel + 1 =>
    let less :=
      if start ≥ 0 then num < den * Nat.pow 10 start.toNat
      else num * Nat.pow 10 (-start).toNat < den
    if less then start else decimalPoint num den (start + 1) fuel

/-- Digits without the zeros at their end, and the exponent that makes up for them. -/
def dropTrailingZeros (exponent : Int) : List Char → List Char × Int
  | digits =>
    let kept := digits.reverse.dropWhile (· == '0')
    (kept.reverse, exponent + (digits.length - kept.length : Nat))

/-- Positional or scientific notation for `digits · 10 ^ exponent`. -/
def writeDigits (digits : List Char) (exponent : Int) : String :=
  let count : Int := digits.length
  let point := count + exponent
  let zeros (n : Int) : List Char := List.replicate n.toNat '0'
  if count ≤ point && point ≤ 21 then String.ofList (digits ++ zeros (point - count))
  else if 0 < point && point ≤ 21 then
    String.ofList (digits.take point.toNat ++ '.' :: digits.drop point.toNat)
  else if -6 < point && point ≤ 0 then
    String.ofList ('0' :: '.' :: zeros (-point) ++ digits)
  else
    let power := point - 1
    let sign := if power < 0 then "e-" else "e+"
    let head := match digits with
      | [] => "0"
      | [d] => String.ofList [d]
      | d :: rest => String.ofList (d :: '.' :: rest)
    head ++ sign ++ toString power.natAbs

/-- The shortest text of a number that reads back as the same number. -/
def text : Binary64 → String
  | .nan => "NaN"
  | .infinite negative => if negative then "-Infinity" else "Infinity"
  | .finite negative m q =>
    if m = 0 then "0"
    else
      let (num, den) := if q ≥ 0 then (m * Nat.pow 2 q.toNat, 1) else (m, Nat.pow 2 (-q).toNat)
      let start : Int := ((Nat.log2 m : Int) + q) * 3 / 10 - 2
      let first := decimalPoint num den start 8
      let (digits, unit) := shortestFrom m q num den first 1 18
      let (kept, unit) := dropTrailingZeros unit (Nat.toDigits 10 digits)
      (if negative then "-" else "") ++ writeDigits kept unit

end Binary64

end Codemod
