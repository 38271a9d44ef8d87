/-!
# Numerals

Writing a natural number in decimal, and reading a numeral that has to stay below a limit. The
reader goes from left to right and names the first thing that is wrong.
-/

namespace TunnelKeeper.Number

/-- The decimal digit of a number below ten. -/
def decimalDigit (n : Nat) : Char := Char.ofNat (48 + n)

/-- A number in decimal, without leading zeros. -/
def decimalChars (n : Nat) : List Char :=
  if n < 10 then [decimalDigit n] else decimalChars (n / 10) ++ [decimalDigit (n % 10)]

/-- A number in decimal, as a text. -/
def decimal (n : Nat) : String := String.ofList (decimalChars n)

/-- An integer in decimal, with a minus sign when it is negative. -/
def decimalInt (i : Int) : String :=
  match i with
  | .ofNat n => decimal n
  | .negSucc n => String.ofList ('-' :: decimalChars (n + 1))

/-- The last digits of a number in decimal, with zeros in front up to a width. -/
def paddedChars : Nat → Nat → List Char
  | 0, _ => []
  | width + 1, n => paddedChars width (n / 10) ++ [decimalDigit (n % 10)]

/-- The value of a digit in a base up to thirty-six; letters count in either case. -/
def digitValue (base : Nat) (c : Char) : Option Nat :=
  let n := c.toNat
  let value :=
    if 48 ≤ n ∧ n ≤ 57 then some (n - 48)
    else if 97 ≤ n ∧ n ≤ 122 then some (n - 87)
    else if 65 ≤ n ∧ n ≤ 90 then some (n - 55)
    else none
  value.filter (· < base)

/-- Why a text is not a numeral below the limit. -/
inductive NumeralFault
  | empty
  | invalidDigit
  | tooLarge
  deriving DecidableEq, Repr

/-- The words for a rejected numeral. -/
def NumeralFault.message : NumeralFault → String
  | .empty => "cannot parse integer from empty string"
  | .invalidDigit => "invalid digit found in string"
  | .tooLarge => "number too large to fit in target type"

/-- Reads digits after the part that has the value `acc`, while the value stays below `limit`. -/
def readDigits (base limit acc : Nat) : List Char → Except NumeralFault Nat
  | [] => .ok acc
  | c :: cs =>
    match digitValue base c with
    | none => .error .invalidDigit
    | some d =>
      if acc * base + d < limit then readDigits base limit (acc * base + d) cs
      else .error .tooLarge

/-- Reads a numeral: an optional plus sign and at least one digit, of a value below `limit`. -/
def readNumeral (base limit : Nat) (s : List Char) : Except NumeralFault Nat :=
  match s with
  | [] => .error .empty
  | ['+'] => .error .invalidDigit
  | '+' :: cs => readDigits base limit 0 cs
  | cs => readDigits base limit 0 cs

/-- The numeral's value, if the text is a decimal numeral below `limit`. -/
def decimalBelow? (limit : Nat) (s : List Char) : Option Nat := (readNumeral 10 limit s).toOption

end TunnelKeeper.Number
