import TunnelKeeper.Data.Schema
import TunnelKeeper.Text.Blank
import TunnelKeeper.Text.Split
/-!
# Instants

A moment as a date and a time of day without offset. The reader follows RFC 3339 but allows blanks
between the parts, a blank instead of the `T`, single digits, and years of any length after a
sign. A time is written with no, three, six or nine digits after the second, the fewest that lose
nothing; a sixtieth second is kept.
-/

namespace TunnelKeeper

open Text Number

/-- Whether a year of the calendar has 366 days. -/
def isLeapYear (year : Int) : Bool := year % 4 = 0 && (year % 100 ≠ 0 || year % 400 = 0)

/-- The number of days of a month. -/
def daysInMonth (year : Int) : Nat → Nat
  | 2 => if isLeapYear year then 29 else 28
  | 4 | 6 | 9 | 11 => 30
  | _ => 31

/-- The first year of the calendar. -/
def firstYear : Int := -262143

/-- The last year of the calendar. -/
def lastYear : Int := 262142

/-- A date of the calendar. -/
structure Date where
  year : Int
  month : Nat
  day : Nat
  deriving DecidableEq, Repr

namespace Date

/-- Whether the calendar has this date. -/
def isValid (d : Date) : Bool :=
  firstYear ≤ d.year && d.year ≤ lastYear && 1 ≤ d.month && d.month ≤ 12 && 1 ≤ d.day &&
    d.day ≤ daysInMonth d.year d.month

/-- The day after. -/
def next (d : Date) : Date :=
  if d.day < daysInMonth d.year d.month then { d with day := d.day + 1 }
  else if d.month < 12 then ⟨d.year, d.month + 1, 1⟩
  else ⟨d.year + 1, 1, 1⟩

/-- The day before. -/
def previous (d : Date) : Date :=
  if 1 < d.day then { d with day := d.day - 1 }
  else if 1 < d.month then ⟨d.year, d.month - 1, daysInMonth d.year (d.month - 1)⟩
  else ⟨d.year - 1, 12, 31⟩

end Date

/-- A moment: a date, the second of the day and the part of the second in billionths, which
exceeds a second during a sixtieth second, and then only. -/
structure Instant where
  date : Date
  second : Nat
  nanos : Nat
  valid : date.isValid ∧ second < 86400 ∧ nanos < 2000000000 ∧
    (1000000000 ≤ nanos → second % 60 = 59)
  deriving DecidableEq

namespace Instant

/-- The moment of these parts, if they are in range. -/
def ofParts? (date : Date) (second nanos : Nat) : Option Instant :=
  if h : date.isValid ∧ second < 86400 ∧ nanos < 2000000000 ∧
      (1000000000 ≤ nanos → second % 60 = 59) then
    some ⟨date, second, nanos, h⟩
  else none

/-- Why a text is not a moment. -/
inductive Reason
  | outOfRange
  | impossible
  | short
  | long
  | invalid
  deriving DecidableEq, Repr

/-- The wording of a reason. -/
def Reason.message : Reason → String
  | .outOfRange => "input is out of range"
  | .impossible => "no possible date and time matching input"
  | .short => "premature end of input"
  | .long => "trailing input"
  | .invalid => "input contains invalid characters"

/-- Reads a number of one to `most` digits; it has to fit 64 bits. -/
def readNumber (most : Option Nat) (s : List Char) : Except Reason (Nat × List Char) :=
  let all := s.takeWhile fun c => (digitValue 10 c).isSome
  let ds := match most with | some n => all.take n | none => all
  if s.isEmpty then .error .short
  else if ds.isEmpty then .error .invalid
  else
    match readDigits 10 0x8000000000000000 0 ds with
    | .ok n => .ok (n, s.drop ds.length)
    | .error _ => .error .outOfRange

/-- Reads four digits, or any number of digits after a sign. -/
def readSigned (s : List Char) : Except Reason (Int × List Char) :=
  match trimLeft s with
  | '-' :: rest => do
    let (n, rest) ← readNumber none rest
    .ok (-(n : Int), rest)
  | '+' :: rest => do
    let (n, rest) ← readNumber none rest
    .ok ((n : Int), rest)
  | rest => do
    let (n, rest) ← readNumber (some 4) rest
    .ok ((n : Int), rest)

/-- Reads a year of 32 bits. -/
def readYear (s : List Char) : Except Reason (Int × List Char) := do
  let (year, rest) ← readSigned s
  if -0x80000000 ≤ year ∧ year < 0x80000000 then .ok (year, rest) else .error .outOfRange

/-- Reads a number of at most two digits between two bounds. -/
def readPart (least most : Nat) (s : List Char) : Except Reason (Nat × List Char) := do
  let (n, rest) ← readNumber (some 2) (trimLeft s)
  if least ≤ n ∧ n ≤ most then .ok (n, rest) else .error .outOfRange

/-- The text after a mark that may have blanks before it. -/
def readMark (mark : Char) (s : List Char) : Except Reason (List Char) :=
  match trimLeft s with
  | [] => .error .short
  | c :: rest => if c = mark then .ok rest else .error .invalid

/-- Reads the part of a second, if there is one: digits after a point, of which nine count. -/
def readFraction (s : List Char) : Except Reason (Nat × List Char) :=
  match s with
  | '.' :: s => do
    let (n, rest) ← readNumber (some 9) s
    let scale := Nat.pow 10 (9 - (s.length - rest.length))
    .ok (n * scale, rest.dropWhile fun c => (digitValue 10 c).isSome)
  | s => .ok (0, s)

/-- Reads two digits. -/
def readPair (s : List Char) : Except Reason (Nat × List Char) :=
  match s with
  | a :: b :: rest =>
    match digitValue 10 a, digitValue 10 b with
    | some a, some b => .ok (a * 10 + b, rest)
    | _, _ => .error (if byteCount s < 2 then .short else .invalid)
  | _ => .error (if byteCount s < 2 then .short else .invalid)

/-- Reads the hours and minutes of an offset, in seconds. -/
def readOffset (s : List Char) : Except Reason (Nat × List Char) := do
  let (hours, s) ← readPair s
  let s := s.dropWhile fun c => c = ':' || isBlank c
  let (minutes, s) ← readPair s
  if 60 ≤ minutes then .error .outOfRange
  else .ok (hours * 3600 + minutes * 60, s)

/-- Reads the zone of a time as seconds ahead of the common time. -/
def readZone (s : List Char) : Except Reason (Int × List Char) :=
  match s with
  | [] => .error .short
  | c :: rest =>
    if (s.take 3).map Char.toUpper = ['U', 'T', 'C'] then .ok (0, s.drop 3)
    else if c = 'Z' ∨ c = 'z' then .ok (0, rest)
    else if c = '+' then do
      let (offset, rest) ← readOffset rest
      .ok (offset, rest)
    else if c = '-' ∨ c = '\u2212' then do
      let (offset, rest) ← readOffset rest
      .ok (-(offset : Int), rest)
    else .error .invalid

/-- A time of day, moved back by the offset of its zone. -/
def shift (date : Date) (second nanos : Nat) (offset : Int) : Option Instant :=
  let moved := (second : Int) - offset
  if moved < 0 then ofParts? date.previous (moved + 86400).toNat nanos
  else if 86400 ≤ moved then ofParts? date.next (moved - 86400).toNat nanos
  else ofParts? date moved.toNat nanos

/-- The moment that a text stands for. -/
def parseChars (s : List Char) : Except Reason Instant := do
  let (year, s) ← readYear s
  let s ← readMark '-' s
  let (month, s) ← readPart 1 12 s
  let s ← readMark '-' s
  let (day, s) ← readPart 1 31 s
  let s ← match s with
    | [] => .error .short
    | c :: rest => if c = 'T' ∨ c = 't' ∨ c = ' ' then .ok rest else .error .invalid
  let (hour, s) ← readPart 0 23 s
  let s ← readMark ':' s
  let (minute, s) ← readPart 0 59 s
  let s ← readMark ':' s
  let (second, s) ← readPart 0 60 s
  let (nanos, s) ← readFraction s
  let (offset, s) ← readZone (trimLeft s)
  let date : Date := ⟨year, month, day⟩
  if trimLeft s ≠ [] then .error .long
  else if !date.isValid || 86400 ≤ offset.natAbs then .error .outOfRange
  else
    let (second, nanos) := if second = 60 then (59, nanos + 1000000000) else (second, nanos)
    match shift date ((hour * 60 + minute) * 60 + second) nanos offset with
    | some instant => .ok instant
    | none => .error .impossible

/-- The moment that a text stands for. -/
def parse (s : String) : Except Reason Instant := parseChars s.toList

/-- A year: four digits, or a sign and at least four digits. -/
def yearChars (year : Int) : List Char :=
  if 0 ≤ year ∧ year ≤ 9999 then paddedChars 4 year.toNat
  else
    let ds := decimalChars year.natAbs
    (if year < 0 then '-' else '+') :: List.replicate (4 - ds.length) '0' ++ ds

/-- The part of a second with the fewest digits of three, six or nine. -/
def fractionChars (nanos : Nat) : List Char :=
  if nanos = 0 then []
  else if nanos % 1000000 = 0 then '.' :: paddedChars 3 (nanos / 1000000)
  else if nanos % 1000 = 0 then '.' :: paddedChars 6 (nanos / 1000)
  else '.' :: paddedChars 9 nanos

/-- The text of a moment. -/
def chars (i : Instant) : List Char :=
  let leap := 1000000000 ≤ i.nanos
  let second := i.second % 60 + (if leap then 1 else 0)
  let nanos := if leap then i.nanos - 1000000000 else i.nanos
  yearChars i.date.year ++ '-' :: paddedChars 2 i.date.month ++ '-' :: paddedChars 2 i.date.day ++
    'T' :: paddedChars 2 (i.second / 3600) ++ ':' :: paddedChars 2 (i.second / 60 % 60) ++
    ':' :: paddedChars 2 second ++ fractionChars nanos ++ ['Z']

/-- The text of a moment. -/
def text (i : Instant) : String := String.ofList i.chars

/-- Reads a moment from a document. -/
def decoder : Decoder Instant := fun _ data =>
  match data with
  | .text s => (parse s).mapError fun reason => .other reason.message
  | other => Decoder.mismatch other "an RFC 3339 formatted date and time string"

end Instant

end TunnelKeeper
