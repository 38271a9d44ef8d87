import TunnelKeeper.Data.Json.Text
/-!
# Writing JSON

A data tree as JSON text without white space; entries keep their order.
-/

namespace TunnelKeeper.Json

open Number

mutual

/-- A value as JSON text. A damaged value has no text. -/
def writeValue : Data → List Char
  | .null => ['n', 'u', 'l', 'l']
  | .bool true => ['t', 'r', 'u', 'e']
  | .bool false => ['f', 'a', 'l', 's', 'e']
  | .int i => (decimalInt i).toList
  | .float x => x.compactText.toList
  | .text s => quoteChars s.toList
  | .seq items _ => '[' :: writeItems items
  | .table entries _ => '\x7b' :: writeEntries entries
  | .damaged _ _ => []

/-- The items of a sequence and the closing bracket. -/
def writeItems : List Data → List Char
  | [] => [']']
  | [item] => writeValue item ++ [']']
  | item :: rest => writeValue item ++ ',' :: writeItems rest

/-- The entries of a table and the closing brace. -/
def writeEntries : List (Except Fault String × Data) → List Char
  | [] => ['\x7d']
  | [(key, value)] => writeKey key ++ ':' :: writeValue value ++ ['\x7d']
  | (key, value) :: rest => writeKey key ++ ':' :: writeValue value ++ ',' :: writeEntries rest

/-- A key as JSON text. -/
def writeKey : Except Fault String → List Char
  | .ok key => quoteChars key.toList
  | .error _ => []

end

/-- A value as JSON text. -/
def write (data : Data) : String := String.ofList (writeValue data)

end TunnelKeeper.Json
