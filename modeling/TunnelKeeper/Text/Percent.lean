import TunnelKeeper.Number.Numeral
import TunnelKeeper.Text.Split
import TunnelKeeper.Text.Utf8
/-!
# Percent encoding

Bytes that are written as a percent sign and two hexadecimal digits. A sign that no two digits
follow stands for itself.
-/

namespace TunnelKeeper.Text

/-- The bytes of an encoded text. -/
def percentDecode : List Char → List UInt8
  | '%' :: a :: b :: rest =>
    match Number.digitValue 16 a, Number.digitValue 16 b with
    | some high, some low => UInt8.ofNat (high * 16 + low) :: percentDecode rest
    | _, _ => 0x25 :: percentDecode (a :: b :: rest)
  | c :: rest => encodeUtf8 [c] ++ percentDecode rest
  | [] => []

/-- A piece of a form: pluses stand for spaces. -/
def formText (s : List Char) : String :=
  (ofUtf8? (percentDecode (s.map fun c => if c = '+' then ' ' else c))).getD "\ufffd"

/-- The names and values of a form. -/
def formEntries (s : List Char) : List (String × String) :=
  ((splitOn '&' s).filter (· ≠ [])).map fun piece =>
    match splitFirst '=' piece with
    | some (name, value) => (formText name, formText value)
    | none => (formText piece, "")

end TunnelKeeper.Text
