import TunnelKeeper.Data.Schema
import TunnelKeeper.Data.Toml.Scalar
import TunnelKeeper.Data.Toml.Table
/-!
# Reading TOML

From a text to a data tree, whose tables keep the order in which the document names their keys. A
text that breaks a rule of the language has no tree at all.
-/

namespace TunnelKeeper.Toml

/-- Containers may be nested less than this deep, and dotted keys have fewer parts. -/
def nestingLimit : Nat := 80

/-- Characters of a key without quotes. -/
def isBare (c : Char) : Bool := c.isAlphanum || c = '_' || c = '-'

/-- Reads one part of a key. -/
def readKeyPart (s : List Char) : Option (String × List Char) :=
  match s with
  | '"' :: rest => readLine '"' true (rest.length + 1) [] rest
  | '\'' :: rest => readLine '\'' false (rest.length + 1) [] rest
  | s =>
    let name := s.takeWhile isBare
    if name.isEmpty then none else some (String.ofList name, s.drop name.length)

/-- Reads the parts of a key, with dots between them and blanks around them. -/
def readKeyParts : Nat → List Char → Option (List String × List Char)
  | 0, _ => none
  | fuel + 1, s => do
    let (part, rest) ← readKeyPart (skipBlanks s)
    match skipBlanks rest with
    | '.' :: rest =>
      let (parts, rest) ← readKeyParts fuel rest
      some (part :: parts, rest)
    | rest => some ([part], rest)

/-- Reads a key: the parts before the last one, and the last one. -/
def readKey (s : List Char) : Option ((List String × String) × List Char) := do
  let (parts, rest) ← readKeyParts nestingLimit s
  let last ← parts.getLast?
  if parts.length < nestingLimit then some ((parts.dropLast, last), rest) else none

/-- The text after blanks, comments and line ends. -/
def skipFiller : Nat → List Char → Option (List Char)
  | 0, s => some s
  | fuel + 1, s =>
    match skipBlanks s with
    | '#' :: rest => skipFiller fuel (skipComment ('#' :: rest))
    | '\n' :: rest => skipFiller fuel rest
    | '\r' :: '\n' :: rest => skipFiller fuel rest
    | '\r' :: _ => none
    | rest => some rest

/-- The text after blanks, comments and line ends. -/
def skipFillers (s : List Char) : Option (List Char) := skipFiller (s.length + 1) s

mutual

/-- Reads a value within `depth` containers. -/
def readValue : Nat → Nat → List Char → Option (Data × List Char)
  | 0, _, _ => none
  | fuel + 1, depth, s =>
    match s with
    | '"' :: _ => (readString '"' true s).map fun (text, rest) => (.text text, rest)
    | '\'' :: _ => (readString '\'' false s).map fun (text, rest) => (.text text, rest)
    | '[' :: rest =>
      if depth + 1 < nestingLimit then readItems fuel (depth + 1) [] rest else none
    | '\x7b' :: rest =>
      if depth + 1 < nestingLimit then
        match skipBlanks rest with
        | '\x7d' :: rest => some (.object [], rest)
        | rest => readPairs fuel (depth + 1) .explicit rest
      else none
    | 't' :: 'r' :: 'u' :: 'e' :: rest => some (.bool true, rest)
    | 'f' :: 'a' :: 'l' :: 's' :: 'e' :: rest => some (.bool false, rest)
    | s => readNumeric s

/-- Reads the items of an array after those that are read already, in reverse. -/
def readItems : Nat → Nat → List Data → List Char → Option (Data × List Char)
  | 0, _, _, _ => none
  | fuel + 1, depth, done, s => do
    match ← skipFillers s with
    | ']' :: rest => some (.list done.reverse, rest)
    | s =>
      let (item, rest) ← readValue fuel depth s
      match ← skipFillers rest with
      | ',' :: rest => readItems fuel depth (item :: done) rest
      | ']' :: rest => some (.list (item :: done).reverse, rest)
      | _ => none

/-- Reads the pairs of an inline table into those that are read already. -/
def readPairs : Nat → Nat → Table → List Char → Option (Data × List Char)
  | 0, _, _, _ => none
  | fuel + 1, depth, t, s => do
    let ((path, key), rest) ← readKey s
    let rest ← readMark '=' rest
    let (value, rest) ← readValue fuel depth (skipBlanks rest)
    let t ← t.addValue path key value
    match skipBlanks rest with
    | ',' :: rest => readPairs fuel depth t rest
    | '\x7d' :: rest => some (t.toData, rest)
    | _ => none

end

/-- A document that is read in part: the tables that are finished, the one that is being filled,
the path of its header, and whether it is one of several of that name. -/
structure Progress where
  root : Table
  current : Table
  path : List String
  name : String
  atTop : Bool
  several : Bool

namespace Progress

/-- Before the first line. -/
def start : Progress := ⟨.explicit, .explicit, [], "", true, false⟩

/-- Puts the table that is being filled into its place. -/
def finish (p : Progress) : Option Table :=
  if p.atTop then some p.current
  else
    p.root.change false
      (fun parent =>
        match parent.find? p.name, p.several with
        | some (.tables done last), true =>
          some (parent.put p.name (.tables (done ++ [last]) p.current))
        | none, true => some (parent.put p.name (.tables [] p.current))
        | some (.table t), false =>
          if t.implicit then some (parent.put p.name (.table p.current)) else none
        | none, false => some (parent.put p.name (.table p.current))
        | _, _ => none)
      p.path

/-- What a name stands for in the table at the end of a path. -/
def lookupAt (t : Table) : List String → String → Option Item
  | [], name => t.find? name
  | key :: path, name =>
    match t.find? key with
    | some (.table child) => lookupAt child path name
    | some (.tables _ last) => lookupAt last path name
    | _ => none

/-- Begins the table of a header. A table that came about for its parts is taken up again. -/
def openTable (p : Progress) (path : List String) (name : String) : Option Progress := do
  let root ← p.finish
  let root ← root.change false some path
  match lookupAt root path name with
  | some (.table t) =>
    if t.implicit ∧ !t.dotted then
      let root ← root.change false (fun parent => some (parent.remove name)) path
      some ⟨root, Table.explicit.withItems t.items, path, name, false, false⟩
    else none
  | some _ => none
  | none => some ⟨root, .explicit, path, name, false, false⟩

/-- Begins a further table of a name that stands for several. -/
def openSeveral (p : Progress) (path : List String) (name : String) : Option Progress := do
  let root ← p.finish
  let root ← root.change false some path
  match lookupAt root path name with
  | some (.tables _ _) | none => some ⟨root, .explicit, path, name, false, true⟩
  | some _ => none

end Progress

/-- The text after the rest of a line: blanks and a comment. -/
def readLineEnd (s : List Char) : Option (List Char) :=
  match skipComment (skipBlanks s) with
  | [] => some []
  | s => readNewline s

/-- Reads the lines of a document. -/
def readLinesFrom : Nat → Progress → List Char → Option Table
  | 0, _, _ => none
  | fuel + 1, p, s =>
    match skipBlanks s with
    | [] => p.finish
    | '[' :: '[' :: rest => do
      let ((path, name), rest) ← readKey rest
      let rest ← readMark ']' rest
      let rest ← readMark ']' rest
      let rest ← readLineEnd rest
      let p ← p.openSeveral path name
      readLinesFrom fuel p rest
    | '[' :: rest => do
      let ((path, name), rest) ← readKey rest
      let rest ← readMark ']' rest
      let rest ← readLineEnd rest
      let p ← p.openTable path name
      readLinesFrom fuel p rest
    | '#' :: rest => do
      let rest ← readLineEnd ('#' :: rest)
      readLinesFrom fuel p rest
    | s =>
      match readNewline s with
      | some rest => readLinesFrom fuel p rest
      | none => do
        let ((path, key), rest) ← readKey s
        let rest ← readMark '=' rest
        let rest := skipBlanks rest
        let (value, rest) ← readValue (2 * rest.length + 2) 0 rest
        let rest ← readLineEnd rest
        let current ← p.current.addValue path key value
        readLinesFrom fuel { p with current := current } rest

/-- The tree of a document. A byte order mark at its beginning does not count. -/
def readDocument (s : String) : Except Fault Data :=
  let cs := match s.toList with
    | '\ufeff' :: rest => rest
    | cs => cs
  match readLinesFrom (cs.length + 1) .start cs with
  | some t => .ok t.toData
  | none => .error .malformed

/-- Reads a typed value from a document. -/
def decodeText {α : Type} (d : Decoder α) (s : String) : Except Issue α := do
  let data ← Decoder.faulty (readDocument s)
  d .toml data

end TunnelKeeper.Toml
