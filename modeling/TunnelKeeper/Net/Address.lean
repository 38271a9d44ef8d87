import TunnelKeeper.Number.Numeral
import TunnelKeeper.Text.Quoted
/-!
# Addresses

Internet addresses of both families as numbers, and their text forms. The short form of the
longer family writes the first longest run of at least two zero groups as `::` and shows an
address that embeds one of the shorter family in its dotted form.
-/

namespace TunnelKeeper.Net

open Number

/-- The two families of addresses. -/
inductive Family
  | v4
  | v6
  deriving DecidableEq, Repr

/-- The number of bits of an address. -/
def Family.bits : Family → Nat
  | .v4 => 32
  | .v6 => 128

/-- The number of addresses. -/
def Family.size (family : Family) : Nat := Nat.pow 2 family.bits

/-- The four bytes of a short address. -/
def octets (value : Nat) : List Nat :=
  [value / 16777216 % 256, value / 65536 % 256, value / 256 % 256, value % 256]

/-- A short address in dotted form. -/
def dotted (value : Nat) : List Char :=
  match (octets value).map decimalChars with
  | [a, b, c, d] => a ++ '.' :: b ++ '.' :: c ++ '.' :: d
  | _ => []

/-- The eight groups of sixteen bits of a long address, beginning with the highest. -/
def groups (value : Nat) : List Nat :=
  (List.range 8).map fun i => value / Nat.pow 65536 (7 - i) % 65536

/-- The number that some groups stand for. -/
def ofGroups (gs : List Nat) : Nat := gs.foldl (fun n g => n * 65536 + g) 0

/-- Groups in hexadecimal, with colons between them. -/
def colonForm : List Nat → List Char
  | [] => []
  | [g] => Text.hexadecimal g
  | g :: rest => Text.hexadecimal g ++ ':' :: colonForm rest

/-- How many zero groups stand at the front. -/
def zeroRun (gs : List Nat) : Nat := (gs.takeWhile (· == 0)).length

/-- The start and the length of the first longest run of zero groups, from a place on. -/
def longestZeroRun : Nat → List Nat → Nat × Nat
  | _, [] => (0, 0)
  | start, g :: rest =>
    let here := zeroRun (g :: rest)
    let (later, length) := longestZeroRun (start + 1) rest
    if length ≤ here then (start, here) else (later, length)

/-- Whether a long address embeds a short one. -/
def isMapped (value : Nat) : Bool := value / 4294967296 == 0xFFFF

/-- A long address in its short form. -/
def compressed (value : Nat) : List Char :=
  if isMapped value then "::ffff:".toList ++ dotted (value % 4294967296)
  else
    let gs := groups value
    let (start, length) := longestZeroRun 0 gs
    if length < 2 then colonForm gs
    else colonForm (gs.take start) ++ [':', ':'] ++ colonForm (gs.drop (start + length))

/-- The text of an address. -/
def addressChars : Family → Nat → List Char
  | .v4, value => dotted value
  | .v6, value => compressed value

/-- Reads a number of at most `most` digits at the front of a text. -/
def readNumber (base most : Nat) (leadingZeros : Bool) (s : List Char) :
    Option (Nat × List Char) :=
  let ds := s.takeWhile fun c => (digitValue base c).isSome
  if ds.isEmpty || most < ds.length then none
  else if !leadingZeros && ds.head? == some '0' && 1 < ds.length then none
  else
    let value := ds.foldl (fun n c => n * base + (digitValue base c).getD 0) 0
    some (value, s.drop ds.length)

/-- Reads a number below 256 at the front of a text. -/
def readOctet (s : List Char) : Option (Nat × List Char) :=
  match readNumber 10 3 false s with
  | some (n, rest) => if n < 256 then some (n, rest) else none
  | none => none

/-- The text after a character. -/
def expect (c : Char) : List Char → Option (List Char)
  | d :: rest => if d = c then some rest else none
  | [] => none

/-- Reads a dotted address at the front of a text. -/
def readDotted (s : List Char) : Option (Nat × List Char) := do
  let (a, s) ← readOctet s
  let s ← expect '.' s
  let (b, s) ← readOctet s
  let s ← expect '.' s
  let (c, s) ← readOctet s
  let s ← expect '.' s
  let (d, s) ← readOctet s
  some (((a * 256 + b) * 256 + c) * 256 + d, s)

/-- Reads at most `room` groups; two of them may be given in dotted form, which ends the groups.
The second component of the answer tells whether this happened. -/
def readGroups : Nat → Bool → List Char → List Nat × Bool × List Char
  | 0, _, s => ([], false, s)
  | room + 1, first, s =>
    match (if first then some s else expect ':' s) with
    | none => ([], false, s)
    | some body =>
      match (if 0 < room then readDotted body else none) with
      | some (value, rest) => ([value / 65536, value % 65536], true, rest)
      | none =>
        match readNumber 16 4 true body with
        | none => ([], false, s)
        | some (g, rest) =>
          let (gs, endsDotted, rest) := readGroups room false rest
          (g :: gs, endsDotted, rest)

/-- Reads a long address at the front of a text. -/
def readLong (s : List Char) : Option (Nat × List Char) :=
  let (front, endsDotted, rest) := readGroups 8 true s
  if front.length = 8 then some (ofGroups front, rest)
  else if endsDotted then none
  else
    match rest with
    | ':' :: ':' :: rest =>
      let (back, _, rest) := readGroups (7 - front.length) true rest
      let zeros := List.replicate (8 - front.length - back.length) 0
      some (ofGroups (front ++ zeros ++ back), rest)
    | _ => none

/-- The address that a whole text stands for. -/
def parseAddress (family : Family) (s : List Char) : Option Nat :=
  match (match family with | .v4 => readDotted s | .v6 => readLong s) with
  | some (value, []) => some value
  | _ => none

end TunnelKeeper.Net
