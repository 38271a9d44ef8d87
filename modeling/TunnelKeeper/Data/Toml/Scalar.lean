import TunnelKeeper.Data.Basic
import TunnelKeeper.Text.Split
/-!
# Scalars of TOML

Strings in their four forms, numbers, and dates and times. Every reader takes the front of a text
and returns the value and the rest; it has no value for a text that breaks the rules.
-/

namespace TunnelKeeper.Toml

open Number

/-- Blanks within a line. -/
def isBlank (c : Char) : Bool := c = ' ' || c = '\t'

/-- The text after blanks. -/
def skipBlanks (s : List Char) : List Char := s.dropWhile isBlank

/-- Characters that may stand in a line: no controls but the tab. -/
def isPlain (c : Char) : Bool := c = '\t' || (0x20 ≤ c.toNat && c.toNat ≠ 0x7F)

/-- The text after the end of a line, if it stands at one. -/
def readNewline : List Char → Option (List Char)
  | '\n' :: rest => some rest
  | '\r' :: '\n' :: rest => some rest
  | _ => none

/-- The text after a comment, which reaches to the end of the line. -/
def skipComment (s : List Char) : List Char :=
  match s with
  | '#' :: rest => rest.dropWhile isPlain
  | s => s

/-- The character that a number stands for. -/
def charOf? (n : Nat) : Option Char := if n.isValidChar then some (Char.ofNat n) else none

/-- The value of hexadecimal digits. -/
def hexValue? (ds : List Char) : Option Nat :=
  ds.foldlM (fun n c => (digitValue 16 c).map (n * 16 + ·)) 0

/-- Reads a character that is given by a fixed number of hexadecimal digits. -/
def readCodePoint (digits : Nat) (s : List Char) : Option (Char × List Char) := do
  let ds := s.take digits
  if ds.length ≠ digits then none
  else
    let c ← charOf? (← hexValue? ds)
    some (c, s.drop digits)

/-- Reads an escape after its backslash. -/
def readEscape : List Char → Option (Char × List Char)
  | 'b' :: rest => some ('\x08', rest)
  | 't' :: rest => some ('\t', rest)
  | 'n' :: rest => some ('\n', rest)
  | 'f' :: rest => some ('\x0c', rest)
  | 'r' :: rest => some ('\r', rest)
  | '"' :: rest => some ('"', rest)
  | '\\' :: rest => some ('\\', rest)
  | 'u' :: rest => readCodePoint 4 rest
  | 'U' :: rest => readCodePoint 8 rest
  | _ => none

/-- Reads a string of one line after its opening quote; `escapes` tells whether a backslash begins
an escape. -/
def readLine (quote : Char) (escapes : Bool) :
    Nat → List Char → List Char → Option (String × List Char)
  | 0, _, _ => none
  | _ + 1, _, [] => none
  | fuel + 1, done, c :: rest =>
    if c = quote then some (String.ofList done.reverse, rest)
    else if escapes ∧ c = '\\' then
      match readEscape rest with
      | some (c, rest) => readLine quote escapes fuel (c :: done) rest
      | none => none
    else if isPlain c then readLine quote escapes fuel (c :: done) rest
    else none

/-- The text after blanks and line ends, if at least one line ends. -/
def skipLines (s : List Char) : Option (List Char) :=
  (readNewline (skipBlanks s)).map fun rest =>
    rest.dropWhile fun c => isBlank c || c = '\n' || c = '\r'

/-- Whether a carriage return stands without a line feed in the blanks at the front. -/
def hasLoneReturn : List Char → Bool
  | '\r' :: '\n' :: rest => hasLoneReturn rest
  | '\r' :: _ => true
  | c :: rest => if isBlank c || c = '\n' then hasLoneReturn rest else false
  | [] => false

/-- Reads a string of several lines after its opening quotes. Three quotes end it, of up to five
in a row the last three; fewer belong to it. -/
def readLines (quote : Char) (escapes : Bool) :
    Nat → List Char → List Char → Option (String × List Char)
  | 0, _, _ => none
  | fuel + 1, done, s =>
    match s with
    | [] => none
    | c :: rest =>
      if c = quote then
        let count := min 5 (s.takeWhile (· = quote)).length
        if count < 3 then
          readLines quote escapes fuel (List.replicate count quote ++ done) (s.drop count)
        else
          let done := List.replicate (count - 3) quote ++ done
          some (String.ofList done.reverse, s.drop count)
      else if escapes ∧ c = '\\' then
        match skipLines rest with
        | some after =>
          if hasLoneReturn (skipBlanks rest) then none
          else readLines quote escapes fuel done after
        | none =>
          match readEscape rest with
          | some (c, rest) => readLines quote escapes fuel (c :: done) rest
          | none => none
      else
        match readNewline s with
        | some rest => readLines quote escapes fuel ('\n' :: done) rest
        | none =>
          if isPlain c then readLines quote escapes fuel (c :: done) rest else none

/-- Reads a string from its opening quote on. -/
def readString (quote : Char) (escapes : Bool) (s : List Char) : Option (String × List Char) :=
  match Text.afterLeading [quote, quote, quote] s with
  | some rest =>
    let rest := (readNewline rest).getD rest
    readLines quote escapes (rest.length + 1) [] rest
  | none => readLine quote escapes s.length [] (s.drop 1)

/-- Reads digits of a base, with single underscores between them. -/
def readDigits (base : Nat) (s : List Char) : Option (List Char × List Char) :=
  let isDigit (c : Char) : Bool := (digitValue base c).isSome
  let run := s.takeWhile fun c => isDigit c || c = '_'
  let doubled := (run.zip (run.drop 1)).any fun (a, b) => a = '_' && b = '_'
  if run.head? = none ∨ run.head? = some '_' ∨ run.getLast? = some '_' ∨ doubled then none
  else some (run.filter (· ≠ '_'), s.drop run.length)

/-- Reads the sign of a number. -/
def readSign : List Char → Bool × List Char
  | '+' :: rest => (false, rest)
  | '-' :: rest => (true, rest)
  | s => (false, s)

/-- Reads decimal digits without a leading zero. -/
def readWhole (s : List Char) : Option (List Char × List Char) :=
  match s with
  | '0' :: rest => some (['0'], rest)
  | s => readDigits 10 s

/-- The value of decimal digits. -/
def decimalValue (ds : List Char) : Nat := ds.foldl (fun n c => n * 10 + (c.toNat - 48)) 0

/-- Reads an exponent, if there is one. -/
def readExponent (s : List Char) : Option (Option Int × List Char) :=
  match s with
  | c :: rest =>
    if c = 'e' ∨ c = 'E' then do
      let (negative, rest) := readSign rest
      let (ds, rest) ← readDigits 10 rest
      let k : Int := decimalValue ds
      some (some (if negative then -k else k), rest)
    else some (none, s)
  | [] => some (none, s)

/-- The digits of a fraction, if there is one. -/
def readFraction (s : List Char) : Option (Option (List Char) × List Char) :=
  match s with
  | '.' :: rest => do
    let (ds, rest) ← readDigits 10 rest
    some (some ds, rest)
  | s => some (none, s)

/-- The number of some digits and a power of ten. A power beyond all finite numbers is not worked
out. -/
def floatOf (negative : Bool) (ds : List Char) (power : Int) : Binary64 :=
  let n := decimalValue ds
  let magnitude := power + ds.length
  if n = 0 ∨ magnitude < -400 then .finite negative 0 Binary64.leastExponent
  else if 400 + (ds.length : Int) < magnitude then .infinite negative
  else .ofDecimal negative n power

/-- An integer of 64 bits with a sign. -/
def integerOf (negative : Bool) (n : Nat) : Option Data :=
  if negative then (if n ≤ 0x8000000000000000 then some (.int (-(n : Int))) else none)
  else if n < 0x8000000000000000 then some (.int n)
  else none

/-- Reads an integer without sign in another base than ten. -/
def readBased (base : Nat) (s : List Char) : Option (Data × List Char) := do
  let (ds, rest) ← readDigits base s
  let n := ds.foldl (fun n c => n * base + (digitValue base c).getD 0) 0
  let d ← integerOf false n
  some (d, rest)

/-- Reads a number that has a name instead of digits. -/
def readNamed (negative : Bool) : List Char → Option (Data × List Char)
  | 'i' :: 'n' :: 'f' :: rest => some (.float (.infinite negative), rest)
  | 'n' :: 'a' :: 'n' :: rest => some (.float .notANumber, rest)
  | _ => none

/-- Reads a number in decimal. -/
def readDecimal (s : List Char) : Option (Data × List Char) :=
  let (negative, s) := readSign s
  match readNamed negative s with
  | some found => some found
  | none => do
    let (ds, rest) ← readWhole s
    let (fraction, rest) ← readFraction rest
    let (exponent, rest) ← readExponent rest
    match fraction, exponent with
    | none, none =>
      let d ← integerOf negative (decimalValue ds)
      some (d, rest)
    | fraction, exponent =>
      let fs := fraction.getD []
      let x := floatOf negative (ds ++ fs) (exponent.getD 0 - fs.length)
      if x = .infinite false then none else some (.float x, rest)

/-- Reads a number. -/
def readNumber : List Char → Option (Data × List Char)
  | '0' :: 'x' :: rest => readBased 16 rest
  | '0' :: 'o' :: rest => readBased 8 rest
  | '0' :: 'b' :: rest => readBased 2 rest
  | s => readDecimal s

/-- Reads a fixed number of decimal digits as a number between two bounds. -/
def readPart (digits least most : Nat) (s : List Char) : Option (Nat × List Char) :=
  let ds := s.take digits
  if ds.length = digits ∧ ds.all (fun c => (digitValue 10 c).isSome) then
    let n := decimalValue ds
    if least ≤ n ∧ n ≤ most then some (n, s.drop digits) else none
  else none

/-- The text after a character. -/
def readMark (mark : Char) : List Char → Option (List Char)
  | c :: rest => if c = mark then some rest else none
  | [] => none

/-- The number of days of a month. -/
def daysIn (year : Nat) : Nat → Nat
  | 2 => if year % 4 = 0 ∧ (year % 100 ≠ 0 ∨ year % 400 = 0) then 29 else 28
  | 4 | 6 | 9 | 11 => 30
  | _ => 31

/-- The text after a date. -/
def readDate (s : List Char) : Option (List Char) := do
  let (year, s) ← readPart 4 0 9999 s
  let s ← readMark '-' s
  let (month, s) ← readPart 2 1 12 s
  let s ← readMark '-' s
  let (_, s) ← readPart 2 1 (daysIn year month) s
  some s

/-- The text after a time of day. -/
def readTime (s : List Char) : Option (List Char) := do
  let (_, s) ← readPart 2 0 23 s
  let s ← readMark ':' s
  let (_, s) ← readPart 2 0 59 s
  let s ← readMark ':' s
  let (_, s) ← readPart 2 0 60 s
  match s with
  | '.' :: rest =>
    let ds := rest.takeWhile fun c => (digitValue 10 c).isSome
    if ds.isEmpty then none else some (rest.drop ds.length)
  | s => some s

/-- The text after an offset, if there is one. -/
def readOffset (s : List Char) : Option (List Char) :=
  match s with
  | c :: rest =>
    if c = 'Z' ∨ c = 'z' then some rest
    else if c = '+' ∨ c = '-' then do
      let (_, rest) ← readPart 2 0 23 rest
      let rest ← readMark ':' rest
      let (_, rest) ← readPart 2 0 59 rest
      some rest
    else some s
  | [] => some s

/-- The text after a date, a time, or both with an offset. A blank after a date belongs to it only
if a time follows. -/
def readMoment (s : List Char) : Option (List Char) :=
  match readDate s with
  | some afterDate =>
    match afterDate with
    | c :: rest =>
      if c = 'T' ∨ c = 't' ∨ c = ' ' then
        match readTime rest with
        | some afterTime => readOffset afterTime
        | none => some afterDate
      else some afterDate
    | [] => some []
  | none => readTime s

/-- The field under which a date or time is read as a table. -/
def momentField : String := "$__toml_private_datetime"

/-- Reads a number, a date or a time. -/
def readNumeric (s : List Char) : Option (Data × List Char) :=
  match readMoment s with
  | some rest =>
    let text := String.ofList (s.take (s.length - rest.length))
    some (.object [(momentField, .text text)], rest)
  | none => readNumber s

end TunnelKeeper.Toml
