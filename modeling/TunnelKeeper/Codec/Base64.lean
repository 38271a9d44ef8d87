import TunnelKeeper.Number.Numeral
/-!
# Base64

Bytes as texts of an alphabet of sixty-four characters, four for every three bytes. The two
dialects differ in two characters and in whether a last group is filled up with `=`. Decoding is
strict: a text is accepted only if it is the one that encoding produces.
-/

namespace TunnelKeeper.Base64

open Number

/-- A dialect: its characters for 62 and 63, and whether the last group is padded. -/
structure Dialect where
  sixtyTwo : Char
  sixtyThree : Char
  padded : Bool

/-- The dialect of keys. -/
def Dialect.standard : Dialect := ⟨'+', '/', true⟩

/-- The dialect of links. -/
def Dialect.urlSafe : Dialect := ⟨'-', '_', false⟩

/-- The character of a number below sixty-four. -/
def Dialect.char (d : Dialect) (n : Nat) : Char :=
  if n < 26 then Char.ofNat (65 + n)
  else if n < 52 then Char.ofNat (71 + n)
  else if n < 62 then Char.ofNat (n - 4)
  else if n = 62 then d.sixtyTwo
  else d.sixtyThree

/-- The number of a character, given as a byte. -/
def Dialect.value? (d : Dialect) (byte : UInt8) : Option Nat :=
  let n := byte.toNat
  if 65 ≤ n ∧ n ≤ 90 then some (n - 65)
  else if 97 ≤ n ∧ n ≤ 122 then some (n - 71)
  else if 48 ≤ n ∧ n ≤ 57 then some (n + 4)
  else if n = d.sixtyTwo.toNat then some 62
  else if n = d.sixtyThree.toNat then some 63
  else none

/-- The padding of a group that lacks some characters. -/
def Dialect.padding (d : Dialect) (missing : Nat) : List Char :=
  if d.padded then List.replicate missing '=' else []

/-- The characters of some bytes. -/
def encodeChars (d : Dialect) : List UInt8 → List Char
  | a :: b :: c :: rest =>
    let n := (a.toNat * 256 + b.toNat) * 256 + c.toNat
    d.char (n / 262144) :: d.char (n / 4096 % 64) :: d.char (n / 64 % 64) :: d.char (n % 64) ::
      encodeChars d rest
  | [a, b] =>
    let n := (a.toNat * 256 + b.toNat) * 4
    d.char (n / 4096) :: d.char (n / 64 % 64) :: d.char (n % 64) :: d.padding 1
  | [a] =>
    let n := a.toNat * 16
    d.char (n / 64) :: d.char (n % 64) :: d.padding 2
  | [] => []

/-- The text of some bytes. -/
def encode (d : Dialect) (bytes : List UInt8) : String := String.ofList (encodeChars d bytes)

/-- Why a text is not the encoding of any bytes. -/
inductive Reason
  | symbol (byte : UInt8) (offset : Nat)
  | lastSymbol (byte : UInt8) (offset : Nat)
  | length (n : Nat)
  | padding
  deriving DecidableEq, Repr

/-- The wording of a reason. -/
def Reason.message : Reason → String
  | .symbol byte offset =>
    "Invalid symbol " ++ decimal byte.toNat ++ ", offset " ++ decimal offset ++ "."
  | .lastSymbol byte offset =>
    "Invalid last symbol " ++ decimal byte.toNat ++ ", offset " ++ decimal offset ++ "."
  | .length n => "Invalid input length: " ++ decimal n
  | .padding => "Invalid padding"

/-- The byte that pads. -/
def padByte : UInt8 := 61

/-- The number of a character at an offset. -/
def sextet (d : Dialect) (offset : Nat) (byte : UInt8) : Except Reason Nat :=
  match d.value? byte with
  | some n => .ok n
  | none => .error (.symbol byte offset)

/-- The last group: the numbers of its characters in reverse with the last character, and how many
padding characters follow. Padding may not start before the third place, and nothing else may
follow it. -/
def lastGroup (d : Dialect) (start : Nat) : Nat → Nat → List Nat → UInt8 → List UInt8 →
    Except Reason (List Nat × UInt8 × Nat)
  | _, pads, values, last, [] => .ok (values, last, pads)
  | i, pads, values, last, byte :: rest =>
    if byte = padByte then
      if i < 2 then .error (.symbol byte (start + i))
      else lastGroup d start (i + 1) (pads + 1) values last rest
    else if 0 < pads then .error (.symbol padByte (start + values.length))
    else
      match sextet d (start + i) byte with
      | .error reason => .error reason
      | .ok n => lastGroup d start (i + 1) pads (n :: values) byte rest

/-- The bytes of the last group. -/
def decodeLast (d : Dialect) (start : Nat) (group : List UInt8) : Except Reason (List UInt8) := do
  let (values, last, pads) ← lastGroup d start 0 0 [] 0 group
  let stop := start + values.length
  let spare (n limit : Nat) (bytes : List UInt8) : Except Reason (List UInt8) :=
    if n % limit = 0 then .ok bytes else .error (.lastSymbol last (stop - 1))
  if d.padded ∧ 2 ≤ values.length ∧ (pads + values.length) % 4 ≠ 0 then .error .padding
  else if !d.padded ∧ 2 ≤ values.length ∧ 0 < pads then .error .padding
  else
    match values with
    | [d, c, b, a] =>
      let n := ((a * 64 + b) * 64 + c) * 64 + d
      .ok [UInt8.ofNat (n / 65536), UInt8.ofNat (n / 256), UInt8.ofNat n]
    | [c, b, a] =>
      let n := (a * 64 + b) * 64 + c
      spare n 4 [UInt8.ofNat (n / 1024), UInt8.ofNat (n / 4)]
    | [b, a] =>
      let n := a * 64 + b
      spare n 16 [UInt8.ofNat (n / 16)]
    | _ => if group.isEmpty then .ok [] else .error (.length stop)

/-- The bytes of the groups from an offset on. -/
def decodeGroups (d : Dialect) : Nat → List UInt8 → Except Reason (List UInt8)
  | start, a :: b :: c :: e :: f :: rest => do
    let a ← sextet d start a
    let b ← sextet d (start + 1) b
    let c ← sextet d (start + 2) c
    let e ← sextet d (start + 3) e
    let n := ((a * 64 + b) * 64 + c) * 64 + e
    let bytes ← decodeGroups d (start + 4) (f :: rest)
    .ok (UInt8.ofNat (n / 65536) :: UInt8.ofNat (n / 256) :: UInt8.ofNat n :: bytes)
  | start, group => decodeLast d start group

/-- The bytes that a text, given as bytes, is the encoding of. A character too many that is not of
the alphabet is noticed before anything else. -/
def decode (d : Dialect) (s : List UInt8) : Except Reason (List UInt8) :=
  match s.getLast? with
  | some byte =>
    if s.length % 4 = 1 ∧ byte ≠ padByte ∧ d.value? byte = none then
      .error (.symbol byte (s.length - 1))
    else decodeGroups d 0 s
  | none => .ok []

end TunnelKeeper.Base64
