/-!
# UTF-8

Texts as bytes. Decoding reads the longest well-formed part at the front and leaves the bytes from
the first one that no character starts or continues with.
-/

namespace TunnelKeeper.Text

/-- The bytes of some characters. -/
def encodeUtf8 (s : List Char) : List UInt8 := s.flatMap String.utf8EncodeChar

/-- The six bits that a continuation byte carries. -/
def continuation (b : UInt8) : Option Nat :=
  if 0x80 ≤ b.toNat ∧ b.toNat < 0xC0 then some (b.toNat - 0x80) else none

/-- The character of a code point that needs exactly as many bytes as it was written with. -/
def wellFormed (least n : Nat) : Option Char :=
  if least ≤ n ∧ n.isValidChar then some (Char.ofNat n) else none

/-- The first character of some bytes, and the bytes after it. -/
def decodeChar : List UInt8 → Option (Char × List UInt8)
  | [] => none
  | a :: rest =>
    let n := a.toNat
    if n < 0x80 then some (Char.ofNat n, rest)
    else if n < 0xC0 then none
    else if n < 0xE0 then
      match rest with
      | b :: rest => do
        let b ← continuation b
        let c ← wellFormed 0x80 ((n - 0xC0) * 0x40 + b)
        some (c, rest)
      | _ => none
    else if n < 0xF0 then
      match rest with
      | b :: c :: rest => do
        let b ← continuation b
        let c ← continuation c
        let c ← wellFormed 0x800 (((n - 0xE0) * 0x40 + b) * 0x40 + c)
        some (c, rest)
      | _ => none
    else if n < 0xF8 then
      match rest with
      | b :: c :: d :: rest => do
        let b ← continuation b
        let c ← continuation c
        let d ← continuation d
        let c ← wellFormed 0x10000 ((((n - 0xF0) * 0x40 + b) * 0x40 + c) * 0x40 + d)
        some (c, rest)
      | _ => none
    else none

/-- Decodes after the characters `done`, in reverse; at most `fuel` more characters. -/
def decodeLoop : Nat → List Char → List UInt8 → List Char × List UInt8
  | 0, done, bytes => (done.reverse, bytes)
  | fuel + 1, done, bytes =>
    match decodeChar bytes with
    | some (c, rest) => decodeLoop fuel (c :: done) rest
    | none => (done.reverse, bytes)

/-- The characters of the longest well-formed part at the front, and the bytes after it. -/
def decodeUtf8 (bytes : List UInt8) : List Char × List UInt8 := decodeLoop bytes.length [] bytes

/-- The text of some bytes, if all of them are well formed. -/
def ofUtf8? (bytes : List UInt8) : Option String :=
  match decodeUtf8 bytes with
  | (s, []) => some (String.ofList s)
  | _ => none

end TunnelKeeper.Text
