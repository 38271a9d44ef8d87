import TunnelKeeper.Data.Basic
/-!
# Numbers of JSON

A number without fraction and exponent is an integer when it fits 64 bits, with or without sign;
any other number is a floating-point number. Its significand is collected in 64 bits: digits
before the point that no longer fit raise the exponent, digits after it are dropped. The value is
the rounded significand, multiplied or divided by a rounded power of ten.
-/

namespace TunnelKeeper.Json

open Number

/-- The limit of significands and of integers without sign. -/
def wordLimit : Nat := 0x10000000000000000

/-- The limit of exponents. -/
def exponentLimit : Nat := 0x80000000

/-- Whether a character is a decimal digit. -/
def isDigit (c : Char) : Bool := 48 ≤ c.toNat && c.toNat ≤ 57

/-- Digits at the front of a text, and the rest. -/
def digitRun (s : List Char) : List Char × List Char := (s.takeWhile isDigit, s.dropWhile isDigit)

/-- Appends digits to a number while it stays below a limit; gives the digits left over. -/
def gather (limit n : Nat) : List Char → Nat × List Char
  | [] => (n, [])
  | c :: cs =>
    let next := n * 10 + (c.toNat - 48)
    if next < limit then gather limit next cs else (n, c :: cs)

/-- The rounded power of ten. -/
def powerOfTen (k : Nat) : Binary64 := .ofDecimal false 1 k

/-- The greatest power of ten that is a finite number. -/
def greatestPower : Nat := 308

/-- Divides by powers of ten until the exponent is used up; the steps are at most `fuel`. -/
def divideByTens : Nat → Binary64 → Nat → Binary64
  | 0, x, _ => x
  | fuel + 1, x, k =>
    if k ≤ greatestPower then x.divMagnitude (powerOfTen k)
    else if x.isZero then x
    else divideByTens fuel (x.divMagnitude (powerOfTen greatestPower)) (k - greatestPower)

/-- The number `significand * 10 ^ exponent`, if it is in range. -/
def scaledNumber (negative : Bool) (significand : Nat) (exponent : Int) : Option Binary64 :=
  let x := Binary64.ofNat significand
  match exponent with
  | .ofNat k =>
    if k ≤ greatestPower then
      let product := x.mulMagnitude (powerOfTen k)
      if product.isInfinite then none else some (product.withSign negative)
    else if x.isZero then some (x.withSign negative)
    else none
  | .negSucc k => some ((divideByTens 4 x (k + 1)).withSign negative)

/-- A number that is out of range can be passed over, but not read. -/
def floatData (negative : Bool) (significand : Nat) (exponent : Int) : Data :=
  match scaledNumber negative significand exponent with
  | some x => .float x
  | none => .damaged .malformed none

/-- A number that breaks off. Who passes over it does not tell a missing digit from a wrong
one. -/
def brokenNumber (rest : List Char) : Data × Option (List Char) :=
  match rest with
  | [] => (.damaged .truncated (some .malformed), none)
  | _ => (.damaged .malformed (some .malformed), none)

/-- An exponent, kept within the range of 32 bits. -/
def clampExponent (k : Int) : Int := max (-(exponentLimit : Int)) (min k (exponentLimit - 1))

/-- Reads an exponent after its letter. -/
def readExponent (negative : Bool) (significand : Nat) (before : Int) (s : List Char) :
    Data × Option (List Char) :=
  let (down, s) :=
    match s with
    | '+' :: rest => (false, rest)
    | '-' :: rest => (true, rest)
    | rest => (false, rest)
  match digitRun s with
  | ([], rest) => brokenNumber rest
  | (ds, rest) =>
    match gather exponentLimit 0 ds with
    | (k, []) =>
      let total : Int := if down then before - k else before + k
      (floatData negative significand (clampExponent total), some rest)
    | _ =>
      if significand ≠ 0 ∧ !down then (.damaged .malformed none, some rest)
      else (.float (.finite negative 0 Binary64.leastExponent), some rest)

/-- Reads a fraction after the point. -/
def readFraction (negative : Bool) (significand : Nat) (before : Int) (s : List Char) :
    Data × Option (List Char) :=
  match digitRun s with
  | ([], rest) => brokenNumber rest
  | (ds, rest) =>
    let (significand, left) := gather wordLimit significand ds
    let exponent := before - (ds.length - left.length : Nat)
    match rest with
    | 'e' :: rest => readExponent negative significand exponent rest
    | 'E' :: rest => readExponent negative significand exponent rest
    | rest => (floatData negative significand exponent, some rest)

/-- A number without fraction and exponent. -/
def wholeNumber (negative : Bool) (n : Nat) : Data :=
  if !negative then .int n
  else if n = 0 ∨ 0x8000000000000000 < n then .float ((Binary64.ofNat n).withSign true)
  else .int (-(n : Int))

/-- Reads a number after its sign. -/
def readNumber (negative : Bool) (s : List Char) : Data × Option (List Char) :=
  match digitRun s with
  | ([], rest) => brokenNumber rest
  | ('0' :: _ :: _, _) => (.damaged .malformed (some .malformed), none)
  | (ds, rest) =>
    let (significand, left) := gather wordLimit 0 ds
    let exponent : Int := left.length
    match rest with
    | '.' :: rest => readFraction negative significand exponent rest
    | 'e' :: rest => readExponent negative significand exponent rest
    | 'E' :: rest => readExponent negative significand exponent rest
    | rest =>
      if left.isEmpty then (wholeNumber negative significand, some rest)
      else (floatData negative significand exponent, some rest)

end TunnelKeeper.Json
