import TunnelKeeper.Number.Numeral
/-!
# Binary floating-point numbers

Numbers of 53 binary digits with the exponent range of the 64-bit format, in exact arithmetic: a
finite number is a sign, a significand and a power of two. Quotients are rounded to the nearest
number, a half to the even neighbour. A number is written with the fewest decimal digits that
read back as the same number.
-/

namespace TunnelKeeper.Number

/-- A 64-bit floating-point number. A finite one has the value `significand * 2 ^ exponent`. -/
inductive Binary64
  | finite (negative : Bool) (significand : Nat) (exponent : Int)
  | infinite (negative : Bool)
  | notANumber
  deriving DecidableEq, Repr

namespace Binary64

/-- The power of two of the smallest positive number. -/
def leastExponent : Int := -1074

/-- The largest power of two that a significand of 53 digits is scaled by. -/
def greatestExponent : Int := 971

/-- `num / den` as a fraction scaled by `2 ^ e`. -/
private def scaled (num den : Nat) (e : Int) : Nat × Nat :=
  if 0 ≤ e then (num, den * Nat.pow 2 e.toNat) else (num * Nat.pow 2 (-e).toNat, den)

/-- The nearest whole number to a fraction, a half going to the even neighbour. -/
def roundHalfEven (num den : Nat) : Nat :=
  let q := num / den
  let r := num % den
  if 2 * r < den then q else if den < 2 * r then q + 1 else if q % 2 = 0 then q else q + 1

/-- The power of two at which a fraction has 53 binary digits before the point, but at least
the least exponent. The two logarithms leave at most two candidates. -/
private def quotientExponent (num den : Nat) : Int :=
  let guess : Int := (Nat.log2 num : Int) - (Nat.log2 den : Int) - 53
  let (n, d) := scaled num den guess
  let e := if n / d < Nat.pow 2 53 then guess else guess + 1
  max e leastExponent

/-- The number nearest to `num / den`, infinite when it is out of range. -/
def ofQuotient (negative : Bool) (num den : Nat) : Binary64 :=
  if num = 0 then .finite negative 0 leastExponent
  else
    let e := quotientExponent num den
    let (n, d) := scaled num den e
    let m := roundHalfEven n d
    let (m, e) := if m = Nat.pow 2 53 then (Nat.pow 2 52, e + 1) else (m, e)
    if greatestExponent < e then .infinite negative else .finite negative m e

/-- The number nearest to a natural number. -/
def ofNat (n : Nat) : Binary64 := ofQuotient false n 1

/-- The number nearest to `digits * 10 ^ power`. -/
def ofDecimal (negative : Bool) (digits : Nat) (power : Int) : Binary64 :=
  if 0 ≤ power then ofQuotient negative (digits * Nat.pow 10 power.toNat) 1
  else ofQuotient negative digits (Nat.pow 10 (-power).toNat)

/-- The magnitude of a finite number as a fraction. -/
private def fraction (m : Nat) (e : Int) : Nat × Nat :=
  if 0 ≤ e then (m * Nat.pow 2 e.toNat, 1) else (m, Nat.pow 2 (-e).toNat)

/-- The magnitude of the product, rounded; used for finite operands only. -/
def mulMagnitude : Binary64 → Binary64 → Binary64
  | .finite _ m e, .finite _ m' e' =>
    let (a, b) := fraction m e
    let (a', b') := fraction m' e'
    ofQuotient false (a * a') (b * b')
  | _, _ => .notANumber

/-- The magnitude of the quotient, rounded; used for finite operands and a divisor that is not
zero. -/
def divMagnitude : Binary64 → Binary64 → Binary64
  | .finite _ m e, .finite _ m' e' =>
    let (a, b) := fraction m e
    let (a', b') := fraction m' e'
    ofQuotient false (a * b') (b * a')
  | _, _ => .notANumber

/-- The number with the given sign. -/
def withSign (negative : Bool) : Binary64 → Binary64
  | .finite _ m e => .finite negative m e
  | .infinite _ => .infinite negative
  | .notANumber => .notANumber

/-- Whether the number is a zero of either sign. -/
def isZero : Binary64 → Bool
  | .finite _ m _ => m == 0
  | _ => false

/-- Whether the number is an infinity. -/
def isInfinite : Binary64 → Bool
  | .infinite _ => true
  | _ => false

/-- Whether `a / b` lies between the two ends, which count when `closed` holds. -/
private def between (closed : Bool) (low high value : Nat × Nat) : Bool :=
  let belowHigh := value.1 * high.2
  let aboveLow := value.1 * low.2
  if closed then low.1 * value.2 ≤ aboveLow && belowHigh ≤ high.1 * value.2
  else low.1 * value.2 < aboveLow && belowHigh < high.1 * value.2

/-- `n * 10 ^ k` as a fraction. -/
private def atPower (n : Nat) (k : Int) : Nat × Nat :=
  if 0 ≤ k then (n * Nat.pow 10 k.toNat, 1) else (n, Nat.pow 10 (-k).toNat)

/-- The power of ten of the first decimal digit of a fraction, found by counting down. -/
private def leadingPower (num den : Nat) : Nat → Int → Int
  | 0, k => k
  | fuel + 1, k =>
    let (a, b) := atPower 1 k
    if a * den ≤ num * b then k else leadingPower num den fuel (k - 1)

/-- The first grid of powers of ten, from the coarsest, that has a point in the interval; of
two points the one nearer to the value. -/
private def firstHit (closed : Bool) (low high value : Nat × Nat) : Nat → Int → Nat × Int
  | 0, k => (0, k)
  | fuel + 1, k =>
    let unit := atPower 1 k
    let below := value.1 * unit.2 / (value.2 * unit.1)
    let inside := fun n => between closed low high (atPower n k)
    let (b, bd) := atPower below k
    let (a, ad) := atPower (below + 1) k
    let nearBelow :=
      (value.1 * bd - b * value.2) * ad ≤ (a * value.2 - value.1 * ad) * bd
    if inside below && below ≠ 0 && (nearBelow || !inside (below + 1)) then (below, k)
    else if inside (below + 1) then (below + 1, k)
    else firstHit closed low high value fuel (k - 1)

/-- The shortest digits `d` and power `k` such that `d * 10 ^ k` reads back as the number with
this significand and exponent. -/
def shortest (m : Nat) (e : Int) : Nat × Int :=
  if m = 0 then (0, 0)
  else
    let narrow := m == Nat.pow 2 52 && e != leastExponent
    let value := fraction (4 * m) (e - 2)
    let low := fraction (4 * m - (if narrow then 1 else 2)) (e - 2)
    let high := fraction (4 * m + 2) (e - 2)
    let top := leadingPower value.1 value.2 700 310
    firstHit (m % 2 == 0) low high value 20 (top + 1)

/-- Digits and a power of ten in positional notation; a whole number gets no point. -/
private def positional (digits : Nat) (power : Int) : List Char :=
  let ds := decimalChars digits
  if 0 ≤ power then (if digits = 0 then ds else ds ++ List.replicate power.toNat '0')
  else
    let places := (-power).toNat
    let padded := List.replicate (places + 1 - ds.length) '0' ++ ds
    padded.take (padded.length - places) ++ ['.'] ++ padded.drop (padded.length - places)

/-- Digits and a power of ten in scientific notation. -/
private def scientific (digits : Nat) (power : Int) : List Char :=
  let ds := decimalChars digits
  let shift := power + (ds.length - 1 : Nat)
  let exponent := 'e' :: (decimalInt shift).toList
  match ds with
  | [d] => d :: exponent
  | d :: more => d :: '.' :: more ++ exponent
  | [] => exponent

/-- Adds a fraction to a number in positional notation that has none. -/
private def withFraction (body : List Char) : List Char :=
  if body.contains '.' then body else body ++ ['.', '0']

/-- Puts the sign in front. -/
private def signed (negative : Bool) (body : List Char) : String :=
  String.ofList (if negative then '-' :: body else body)

/-- The number in positional notation, with at least one digit after the point. -/
def positionalText : Binary64 → String
  | .finite negative m e =>
    let (digits, power) := shortest m e
    signed negative (withFraction (positional digits power))
  | .infinite negative => signed negative "inf".toList
  | .notANumber => "NaN"

/-- The number in positional notation when its first digit stands at most sixteen places before
and four places after the point, else in scientific notation. -/
def compactText : Binary64 → String
  | .finite negative m e =>
    let (digits, power) := shortest m e
    let point := power + (decimalChars digits).length
    if digits = 0 ∨ (-5 < point ∧ point ≤ 16) then
      signed negative (withFraction (positional digits power))
    else signed negative (scientific digits power)
  | .infinite negative => signed negative "inf".toList
  | .notANumber => "NaN"

end Binary64

end TunnelKeeper.Number
