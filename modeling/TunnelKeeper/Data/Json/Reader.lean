import TunnelKeeper.Data.Json.Text
import TunnelKeeper.Data.Json.Numeral
import TunnelKeeper.Data.Schema
import TunnelKeeper.Text.Utf8
/-!
# Reading JSON

From a text to a data tree. Reading never fails: where the text breaks the grammar the tree is
damaged, and the text after that place is left unread.
-/

namespace TunnelKeeper.Json

/-- The white space of JSON. -/
def isSpace (c : Char) : Bool := c = ' ' || c = '\n' || c = '\t' || c = '\r'

/-- The text after white space. -/
def skipSpace (s : List Char) : List Char := s.dropWhile isSpace

/-- A value that cannot be read at all. -/
def broken (fault : Fault) : Data := .damaged fault (some fault)

/-- Reads the letters of a word that stands for a value. -/
def readWord (value : Data) : List Char → List Char → Data × Option (List Char)
  | [], s => (value, some s)
  | _ :: _, [] => (broken .truncated, none)
  | w :: ws, c :: cs => if w = c then readWord value ws cs else (broken .malformed, none)

/-- Reads a string after its opening quote. -/
def readString (s : List Char) : Data × Option (List Char) :=
  let scanned := scanString .start s
  match scanned.content, scanned.rest with
  | .ok cs, .ok rest => (.text (String.ofList cs), some rest)
  | .error fault, .ok rest => (.damaged fault none, some rest)
  | .error fault, .error passing => (.damaged fault (some passing), none)
  | .ok _, .error passing => (broken passing, none)

/-- Reads the key of an entry after its opening quote, and the colon. -/
def readKey (s : List Char) : Except Fault String × Except Fault (List Char) :=
  let scanned := scanString .start s
  let key := scanned.content.map String.ofList
  match scanned.rest with
  | .error fault => (key, .error fault)
  | .ok rest =>
    match skipSpace rest with
    | [] => (key, .error .truncated)
    | ':' :: rest => (key, .ok rest)
    | _ => (key, .error .malformed)

mutual

/-- Reads a value, and gives the text after it unless the value breaks off. -/
def readValue : Nat → List Char → Data × Option (List Char)
  | 0, _ => (broken .malformed, none)
  | fuel + 1, s =>
    match skipSpace s with
    | [] => (broken .truncated, none)
    | 'n' :: rest => readWord .null ['u', 'l', 'l'] rest
    | 't' :: rest => readWord (.bool true) ['r', 'u', 'e'] rest
    | 'f' :: rest => readWord (.bool false) ['a', 'l', 's', 'e'] rest
    | '"' :: rest => readString rest
    | '[' :: rest => readItems fuel true [] rest
    | '\x7b' :: rest => readEntries fuel true [] rest
    | '-' :: rest => readNumber true rest
    | c :: rest => if isDigit c then readNumber false (c :: rest) else (broken .malformed, none)

/-- Reads the items of a sequence after those that are read already, in reverse. -/
def readItems : Nat → Bool → List Data → List Char → Data × Option (List Char)
  | 0, _, _, _ => (broken .malformed, none)
  | fuel + 1, first, done, s =>
    match skipSpace s with
    | [] => (.seq done.reverse (some .truncated), none)
    | ']' :: rest => (.seq done.reverse none, some rest)
    | c :: rest =>
      if first then readItem fuel done (c :: rest)
      else if c = ',' then
        match skipSpace rest with
        | [] => (.seq (broken .truncated :: done).reverse none, none)
        | ']' :: _ => (.seq (broken .malformed :: done).reverse none, none)
        | rest => readItem fuel done rest
      else (.seq done.reverse (some .malformed), none)

/-- Reads one item and those after it. -/
def readItem : Nat → List Data → List Char → Data × Option (List Char)
  | 0, _, _ => (broken .malformed, none)
  | fuel + 1, done, s =>
    match readValue fuel s with
    | (item, some rest) => readItems fuel false (item :: done) rest
    | (item, none) => (.seq (item :: done).reverse none, none)

/-- Reads the entries of a table after those that are read already, in reverse. -/
def readEntries : Nat → Bool → List (Except Fault String × Data) → List Char →
    Data × Option (List Char)
  | 0, _, _, _ => (broken .malformed, none)
  | fuel + 1, first, done, s =>
    match skipSpace s with
    | [] => (.table done.reverse (some .truncated), none)
    | '\x7d' :: rest => (.table done.reverse none, some rest)
    | c :: rest =>
      if first then readEntry fuel done (c :: rest)
      else if c = ',' then readEntry fuel done (skipSpace rest)
      else (.table done.reverse (some .malformed), none)

/-- Reads one entry and those after it. -/
def readEntry : Nat → List (Except Fault String × Data) → List Char → Data × Option (List Char)
  | 0, _, _ => (broken .malformed, none)
  | fuel + 1, done, s =>
    match s with
    | [] => (.table ((.error .truncated, broken .truncated) :: done).reverse none, none)
    | '"' :: rest =>
      match readKey rest with
      | (key, .error fault) => (.table ((key, broken fault) :: done).reverse none, none)
      | (key, .ok rest) =>
        match readValue fuel rest with
        | (value, some rest) => readEntries fuel false ((key, value) :: done) rest
        | (value, none) => (.table ((key, value) :: done).reverse none, none)
    | _ => (.table ((.error .malformed, broken .malformed) :: done).reverse none, none)

end

/-- A whole document: its value, and whether nothing but white space follows it. -/
structure Document where
  root : Data
  complete : Bool

/-- Reads a document; each step of the reader takes a character or precedes one that does. -/
def readDocument (s : List Char) : Document :=
  match readValue (3 * s.length + 3) s with
  | (root, some rest) => ⟨root, (skipSpace rest).isEmpty⟩
  | (root, none) => ⟨root, true⟩

/-- Reads a typed value from a text. What follows the value is looked at last. -/
def decodeText {α : Type} (d : Decoder α) (s : String) : Except Issue α := do
  let document := readDocument s.toList
  let a ← d .jsonText document.root
  if document.complete then .ok a else .error (.damaged .malformed)

/-- Reads a whole document, with the entries of its tables sorted. -/
def readSettled (s : List Char) : Except Fault Data := do
  let document := readDocument s
  let data ← document.root.settle Data.depthLimit
  if document.complete then .ok data else .error .malformed

/-- Whether a text ends within a string. -/
def endsInString : Bool → List Char → Bool
  | inside, [] => inside
  | true, '\\' :: _ :: rest => endsInString true rest
  | inside, '"' :: rest => endsInString (!inside) rest
  | inside, _ :: rest => endsInString inside rest

/-- Reads a whole document from bytes. Bytes that are no text are noticed at the end of the string
that holds them, so a text that ends before that is cut short rather than wrong. -/
def readBytes (bytes : List UInt8) : Except Fault Data :=
  match Text.decodeUtf8 bytes with
  | (s, []) => readSettled s
  | (s, rest) =>
    match readSettled s with
    | .error .malformed => .error .malformed
    | _ =>
      let tail := rest.map fun b => if b.toNat < 0x80 then Char.ofNat b.toNat else '\ufffd'
      if endsInString false s && endsInString true tail then
        match (scanString .start tail).rest with
        | .error fault => .error fault
        | .ok _ => .error .malformed
      else .error .malformed

end TunnelKeeper.Json
