import TunnelKeeper.Data.Basic
import TunnelKeeper.Text.Quoted
import TunnelKeeper.Text.Split
/-!
# Strings of JSON

Writing a string with the escapes that JSON asks for, and reading one. The reader gives two
answers: what a reader of the string meets, and where one goes on who only passes over it. They
differ where an escape names half of a surrogate pair, which has no character.
-/

namespace TunnelKeeper.Json

open Text

/-- One character as it stands in a JSON string. -/
def escapeChar (c : Char) : List Char :=
  match c with
  | '"' => ['\\', '"']
  | '\\' => ['\\', '\\']
  | '\x08' => ['\\', 'b']
  | '\x0c' => ['\\', 'f']
  | '\n' => ['\\', 'n']
  | '\r' => ['\\', 'r']
  | '\t' => ['\\', 't']
  | c =>
    if c.toNat < 0x20 then
      ['\\', 'u', '0', '0', hexDigit (c.toNat / 16), hexDigit (c.toNat % 16)]
    else [c]

/-- A string between double quotes. -/
def quoteChars (s : List Char) : List Char := '"' :: s.flatMap escapeChar ++ ['"']

/-- The character that a one-letter escape stands for. -/
def unescape : Char → Option Char
  | '"' => some '"'
  | '\\' => some '\\'
  | '/' => some '/'
  | 'b' => some '\x08'
  | 'f' => some '\x0c'
  | 'n' => some '\n'
  | 'r' => some '\r'
  | 't' => some '\t'
  | _ => none

/-- The value of four hexadecimal digits. -/
def hexQuad (a b c d : Char) : Option Nat := do
  let a ← Number.digitValue 16 a
  let b ← Number.digitValue 16 b
  let c ← Number.digitValue 16 c
  let d ← Number.digitValue 16 d
  some (((a * 16 + b) * 16 + c) * 16 + d)

/-- The first half of a surrogate pair. -/
def isLead (n : Nat) : Bool := 0xD800 ≤ n && n ≤ 0xDBFF

/-- The second half of a surrogate pair. -/
def isTrail (n : Nat) : Bool := 0xDC00 ≤ n && n ≤ 0xDFFF

/-- What reading a string gives: its characters or the first fault in it, and the text after the
closing quote or the fault that hides it. -/
structure Scanned where
  content : Except Fault (List Char)
  rest : Except Fault (List Char)

/-- Content that is read so far, in reverse, and the first half of a pair that waits for the
second. -/
structure Partial where
  content : Except Fault (List Char)
  lead : Option Nat

namespace Partial

/-- Nothing read yet. -/
def start : Partial := ⟨.ok [], none⟩

/-- A half that waits in vain is a fault. -/
def closed (p : Partial) : Except Fault (List Char) :=
  match p.content, p.lead with
  | .ok _, some _ => .error .malformed
  | content, _ => content

/-- Adds a character. -/
def push (p : Partial) (c : Char) : Partial := ⟨p.closed.map (c :: ·), none⟩

/-- Adds a code unit that was given by number. -/
def pushUnit (p : Partial) (n : Nat) : Partial :=
  match p.lead with
  | some lead =>
    if isTrail n then
      ⟨p.content.map (Char.ofNat (0x10000 + (lead - 0xD800) * 0x400 + (n - 0xDC00)) :: ·), none⟩
    else ⟨p.closed, none⟩
  | none =>
    if isTrail n then ⟨p.content.bind fun _ => .error .malformed, none⟩
    else if isLead n then ⟨p.content, some n⟩
    else p.push (Char.ofNat n)

/-- The string breaks off with a fault. -/
def broken (p : Partial) (fault : Fault) : Scanned :=
  ⟨p.content.bind fun _ => .error fault, .error fault⟩

end Partial

/-- Reads a string after its opening quote. -/
def scanString (p : Partial) : List Char → Scanned
  | [] => p.broken .truncated
  | '"' :: rest => ⟨p.closed.map List.reverse, .ok rest⟩
  | '\\' :: 'u' :: a :: b :: c :: d :: rest =>
    match hexQuad a b c d with
    | some n => scanString (p.pushUnit n) rest
    | none => p.broken .malformed
  | '\\' :: 'u' :: few => p.broken (if byteCount few < 4 then .truncated else .malformed)
  | ['\\'] => p.broken .truncated
  | '\\' :: c :: rest =>
    match unescape c with
    | some c => scanString (p.push c) rest
    | none => p.broken .malformed
  | c :: rest => if c.toNat < 0x20 then p.broken .malformed else scanString (p.push c) rest

end TunnelKeeper.Json
